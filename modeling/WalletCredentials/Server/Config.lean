import WalletCredentials.Exchange.Settings
import WalletCredentials.Text.Natural
import WalletCredentials.Text.Split

/-!
# Settings of the server

The server reads its settings once, from the variables of its environment. A variable
that is absent has a usual value; one that cannot be used is an error.
-/

namespace WalletCredentials

/-- Why the environment cannot be used. -/
inductive ConfigFault
  | variable (name value reason : String)
  | issuerKey (reason : String)
  | emptySecret
  deriving DecidableEq, Repr

/-- The wording of a fault. -/
def ConfigFault.message : ConfigFault → String
  | .variable name value reason => "invalid " ++ name ++ "=" ++ Text.quoted value ++ ": " ++ reason
  | .issuerKey reason => "invalid ISSUER_KEY: " ++ reason
  | .emptySecret => "HMAC_SECRET must not be empty"

/-- The form of the lines of the log. -/
inductive LogFormat
  | text
  | json
  deriving DecidableEq, Repr

/-- The settings of the server. -/
structure Config where
  port : Nat
  /-- The key of offer tokens; without one the server makes its own. -/
  secret : Option Secret
  /-- The key of credentials; without one the server makes its own. -/
  issuerKey : Option Jwk
  /-- The base of the addresses that are handed out; without one it is the host that was
  asked. -/
  publicUrl : Option String
  offerTtl : Timestamp.Span
  requestTtl : Timestamp.Span
  /-- The milliseconds that a call of the toolkit may take. -/
  toolkitTimeout : Nat
  /-- The seconds between two sweeps. -/
  sweepInterval : Nat
  logFormat : LogFormat
  deriving DecidableEq

namespace Config

/-- The variables of an environment. -/
abbrev Environment := String → Option String

/-- Reads a number from one to a bound, or takes the usual one. -/
def readBounded (environment : Environment) (name : String) (usual bound : Nat) :
    Except ConfigFault Nat :=
  match environment name with
  | none => .ok usual
  | some value =>
      match Text.readNat (UInt64.size - 1) value with
      | .error fault => .error (.variable name value fault.message)
      | .ok n =>
          if n = 0 then .error (.variable name value "must be greater than zero")
          else if bound < n then
            .error (.variable name value ("must be at most " ++ toString bound))
          else .ok n

/-- Reads the port. -/
def readPort (environment : Environment) : Except ConfigFault Nat :=
  match environment "PORT" with
  | none => .ok 8080
  | some value => (Text.readNat 65535 value).mapError fun f => .variable "PORT" value f.message

/-- Reads the key of offer tokens. -/
def readSecret (environment : Environment) : Except ConfigFault (Option Secret) :=
  match environment "HMAC_SECRET" with
  | none => .ok none
  | some value => ((Secret.ofText value).mapError fun _ => .emptySecret).map some

/-- Reads the key of credentials, which has to hold a private part. -/
def readIssuerKey (environment : Environment) : Except ConfigFault (Option Jwk) :=
  match environment "ISSUER_KEY" with
  | none => .ok none
  | some value =>
      match Jwk.read value with
      | .error e => .error (.issuerKey e.message)
      | .ok key => if key.isPrivate then .ok (some key) else .error (.issuerKey "no private key")

/-- Reads the form of the log. -/
def readLogFormat (environment : Environment) : Except ConfigFault LogFormat :=
  match environment "LOG_FORMAT" with
  | none => .ok .text
  | some "text" => .ok .text
  | some "json" => .ok .json
  | some value => .error (.variable "LOG_FORMAT" value "expected text or json")

/-- Reads the settings from an environment. -/
def read (environment : Environment) : Except ConfigFault Config := do
  let port ← readPort environment
  let secret ← readSecret environment
  let issuerKey ← readIssuerKey environment
  let offerTtl ← readBounded environment "OFFER_TTL_SECS" 900 maxLifetime.toNat
  let requestTtl ← readBounded environment "REQUEST_TTL_SECS" 900 maxLifetime.toNat
  let toolkitTimeout ← readBounded environment "TOOLKIT_TIMEOUT_MS" 5000 3600000
  let sweepInterval ← readBounded environment "SWEEP_INTERVAL_SECS" 60 86400
  let logFormat ← readLogFormat environment
  return {
    port := port
    secret := secret
    issuerKey := issuerKey
    publicUrl := (environment "PUBLIC_URL").map Text.withoutEndSlashes
    offerTtl := .ofSeconds offerTtl
    requestTtl := .ofSeconds requestTtl
    toolkitTimeout := toolkitTimeout
    sweepInterval := sweepInterval
    logFormat := logFormat }

/-- Settings as they are shown: the keys stay hidden. -/
def shown (config : Config) : String :=
  let hidden {α : Type} (o : Option α) := Text.quotedOption (o.map fun _ => "[REDACTED]")
  "AppConfig \x7b port: " ++ toString config.port ++ ", hmac_secret: " ++ hidden config.secret ++
    ", issuer_key: " ++ hidden config.issuerKey ++ ", public_url: " ++
    Text.quotedOption config.publicUrl ++ ", offer_ttl: " ++ config.offerTtl.shown ++
    ", request_ttl: " ++ config.requestTtl.shown ++ ", toolkit_timeout: " ++
    shownMillis config.toolkitTimeout ++ ", sweep_interval: " ++
    shownMillis (1000 * config.sweepInterval) ++ ", log_format: " ++
    (match config.logFormat with
      | .text => "Text"
      | .json => "Json") ++ " \x7d"

end Config

end WalletCredentials

import WalletCredentials.Jwk
import WalletCredentials.Offer.Token

/-!
# Settings of the services
-/

namespace WalletCredentials

/-- What the services run with. -/
structure Settings where
  secret : Secret
  /-- The key that credentials are signed with. -/
  issuerKey : Jwk
  /-- How long an offer token may be redeemed, and how long a credential is valid. -/
  offerTtl : Timestamp.Span
  /-- How long a sign-in request may be answered. -/
  requestTtl : Timestamp.Span
  /-- The milliseconds that a call of the toolkit may take. -/
  toolkitTimeout : Nat
  deriving DecidableEq

/-- The seconds of a quarter of an hour. -/
def quarterHour : Int := 900

/-- The longest lifetime of an offer or a request: ten years, in seconds. -/
def maxLifetime : Int := 316224000

/-- Settings with the usual lifetimes. -/
def Settings.standard (secret : Secret) (issuerKey : Jwk) : Settings where
  secret := secret
  issuerKey := issuerKey
  offerTtl := .ofSeconds quarterHour
  requestTtl := .ofSeconds quarterHour
  toolkitTimeout := 5000

/-- A span as it is shown. -/
def Timestamp.Span.shown (span : Timestamp.Span) : String :=
  "TimeDelta \x7b secs: " ++ Text.ofInt span.seconds ++ ", nanos: " ++ toString span.nanos ++
    " \x7d"

/-- A number of milliseconds as it is shown: in seconds from one second on. -/
def shownMillis (millis : Nat) : String :=
  if millis = 0 then "0ns"
  else if millis < 1000 then toString millis ++ "ms"
  else
    let part := (Text.digitsOf 3 millis).reverse.dropWhile (· = '0') |>.reverse
    toString (millis / 1000) ++ (if part.isEmpty then "" else "." ++ String.ofList part) ++ "s"

/-- Settings as they are shown: the secret and the key stay hidden. -/
def Settings.shown (settings : Settings) : String :=
  "ProtocolConfig \x7b hmac_secret: \"[REDACTED]\", issuer_key: \"[REDACTED]\", offer_ttl: " ++
    settings.offerTtl.shown ++ ", request_ttl: " ++ settings.requestTtl.shown ++
    ", toolkit_timeout: " ++ shownMillis settings.toolkitTimeout ++ " \x7d"

end WalletCredentials

import WalletCredentials.CommandLine.Usage
import WalletCredentials.DidKey
import WalletCredentials.Offer.Link

/-!
# Commands

Offer links are minted and checked, and keys are made, without a running server. A
command says what it writes and where, and leaves the writing to its caller.
-/

namespace WalletCredentials.CommandLine

/-- The option for more lines in the log. -/
def verboseFlag : Flag := ⟨"verbose", some 'v', .flag, false⟩

/-- The option for help. -/
def helpFlag : Flag := ⟨"help", some 'h', .stop .help, false⟩

/-- An option with a text. -/
def textFlag (name : String) (required : Bool) : Flag := ⟨name, none, .text, required⟩

/-- The command for help on commands. -/
def helpCommand : String × Command := ("help", .mk [] [] [])

/-- The command that mints an offer link. -/
def mintCommand : Command :=
  .mk [textFlag "secret" true, textFlag "id" false, textFlag "base-url" false,
    ⟨"ttl", none, .number, false⟩, verboseFlag, helpFlag] [] []

/-- The command that checks an offer link. -/
def checkCommand : Command :=
  .mk [textFlag "secret" true, textFlag "at" false, verboseFlag, helpFlag] ["URL"] []

/-- The command that makes a key. -/
def generateCommand : Command :=
  .mk [⟨"output", some 'o', .path, false⟩, verboseFlag, helpFlag] [] []

/-- The commands on tokens. -/
def tokenCommand : Command :=
  .mk [verboseFlag, helpFlag] [] [("mint", mintCommand), ("check", checkCommand), helpCommand]

/-- The commands on keys. -/
def keyCommand : Command :=
  .mk [verboseFlag, helpFlag] [] [("generate", generateCommand), helpCommand]

/-- All commands. -/
def mainCommand : Command :=
  .mk [verboseFlag, helpFlag, ⟨"version", some 'V', .stop .version, false⟩] []
    [("token", tokenCommand), ("key", keyCommand), helpCommand]

/-- A command with its values. -/
inductive Invocation
  | mint (secret : String) (id : Option String) (base : String) (seconds : Int)
  /-- The check of a link, at a time other than now if one is given. -/
  | check (secret : String) (at? : Option String) (url : String)
  /-- The making of a key, for a file if one is given. -/
  | generate (output : Option String)
  deriving DecidableEq, Repr

/-- The command that names and values stand for. -/
def invocation (names : List String) (values : List (String × String)) :
    Except UsageFault Invocation :=
  let value? (name : String) : Option String := Dictionary.find? name values
  let text (name : String) : String := (value? name).getD ""
  match names with
  | ["token", "mint"] =>
      let seconds := match (value? "ttl").map Text.readInt64 with
        | some (.ok n) => n
        | _ => quarterHour
      .ok (.mint (text "secret") (value? "id") ((value? "base-url").getD "http://localhost:8080")
        seconds)
  | ["token", "check"] => .ok (.check (text "secret") (value? "at") (text "URL"))
  | ["key", "generate"] => .ok (.generate (value? "output"))
  | _ => .error .missingCommand

/-- Reads a command line. -/
def readInvocation (arguments : List String) : Except UsageFault Invocation := do
  let (names, values) ← read mainCommand arguments .start
  invocation names values

/-- Why a command fails. -/
inductive CommandFault
  | secret (fault : KeyFault)
  | at (text : String) (error : InputError)
  | url (text : String) (fault : UrlFault)
  | link (fault : OfferToken.LinkFault)
  deriving DecidableEq

/-- The wording of a fault. -/
def CommandFault.message : CommandFault → String
  | .secret fault => "--secret must not be empty: " ++ fault.message
  | .at text error => "invalid --at value " ++ Text.quoted text ++ ": " ++ error.message
  | .url text fault => "invalid offer URL " ++ Text.quoted text ++ ": " ++ fault.message
  | .link fault => fault.message

/-- What a command comes to. -/
structure Report where
  exitCode : Nat
  /-- A file to write first: its path and its text. -/
  file : Option (String × String)
  output : String
  /-- The lines for the user that are no result. -/
  notes : String
  deriving DecidableEq, Repr

/-- A report of one line. -/
def Report.line (exitCode : Nat) (text : String) : Report := ⟨exitCode, none, text ++ "\n", ""⟩

/-- Reads the secret of a command. -/
def readSecret (text : String) : Except CommandFault Secret :=
  (Secret.ofText text).mapError .secret

/-- Mints an offer link. -/
def mint (now : Timestamp) (fresh : Ed25519.KeyPair) (secret : String) (id : Option String)
    (base : String) (seconds : Int) : Except CommandFault Report := do
  let secret ← readSecret secret
  let id := id.getD (DidKey.ofPublicKey fresh.publicKey).text
  let url ← (OfferToken.mintUrl secret id base seconds now).mapError .link
  return .line 0 url.text

/-- Checks an offer link. -/
def check (now : Timestamp) (secret : String) (at? : Option String) (url : String) :
    Except CommandFault Report := do
  let secret ← readSecret secret
  let now ← match at? with
    | some text => (Timestamp.read text).mapError (.at text)
    | none => pure now
  let url ← (Url.read url).mapError (.url url)
  match OfferToken.checkUrl secret url now with
  | .ok () => return .line 0 "OK: token is valid"
  | .error e => return .line 1 ("FAIL: " ++ e.message)

/-- Makes a key. -/
def generate (fresh : Ed25519.KeyPair) (output : Option String) : Report :=
  let key := (Jwk.ofKeyPair fresh).text
  let notes := "issuer DID: " ++ (DidKey.ofPublicKey fresh.publicKey).text ++ "\n"
  match output with
  | some path =>
      ⟨0, some (path, key), "OK: generated issuer key\n  Key: " ++ path ++ "\n", notes⟩
  | none => ⟨0, none, key ++ "\n", notes⟩

/-- Runs a command, at a time and with fresh randomness. -/
def run (now : Timestamp) (fresh : Ed25519.KeyPair) : Invocation → Except CommandFault Report
  | .mint secret id base seconds => mint now fresh secret id base seconds
  | .check secret at? url => check now secret at? url
  | .generate output => .ok (generate fresh output)

end WalletCredentials.CommandLine

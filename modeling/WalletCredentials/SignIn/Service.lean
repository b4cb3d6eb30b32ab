import WalletCredentials.Exchange.Call
import WalletCredentials.Exchange.Settings
import WalletCredentials.Exchange.Stores
import WalletCredentials.Json.Reader

/-!
# Signing in

A verifier hands out a request with a fresh challenge, and later checks the
presentation that a wallet returns for it. An answer does not use the request up.
-/

namespace WalletCredentials.SignIn

variable (toolkit : Toolkit)

/-- Keeps a request by a domain, with a fresh challenge, and hands it out. -/
def createRequest (settings : Settings) (challenge domain : String) (now : Timestamp)
    (store : RequestStore) : Except ExchangeError SignInRequest × RequestStore :=
  match now.plus settings.requestTtl with
  | .ok last =>
      let request := SignInRequest.signIn challenge domain
      (.ok request, (store.put challenge request last).2)
  | .error e => (.error (.internal e.message), store)

/-- Reads the text of a presentation. -/
def readPresentation (text : String) : Except ExchangeError Json :=
  match Json.read? text with
  | some (.object members) => .ok (.object members)
  | some _ => .error (.malformedPresentation "expected a JSON object")
  | none => .error (.malformedPresentation ReadFault.malformed.message)

/-- The credential in a presentation: its own, or the first of several. -/
def embeddedCredential? (presentation : Json) : Option Json :=
  match presentation.member? "verifiableCredential" with
  | some (.array items) => items.head?
  | some .null => none
  | credential => credential

/-- The credential in a presentation, which has to hold one. -/
def embeddedCredential (presentation : Json) : Except ExchangeError Json :=
  match embeddedCredential? presentation with
  | some credential => .ok credential
  | none => .error .missingCredential

/-- The subject that a credential states. -/
def subject? (credential : Json) : Option String :=
  (credential.member? "credentialSubject").bind (Json.text? "id")

/-- Checks the presentation that answers the request of a challenge: first the
presentation itself, then the credential in it, and last that the credential was issued
to the holder of the presentation. -/
def verifyPresentation (challenge text domain : String) (now : Timestamp) (store : RequestStore) :
    Except ExchangeError Unit := do
  if challenge.isEmpty then throw (.missingField "challenge")
  if text.isEmpty then throw (.missingField "presentation")
  let presentation ← readPresentation text
  let options := VerifyOptions.authentication (store.get? challenge now) domain
  let result ← (toolkit.verifyPresentation presentation options).value "verify_presentation"
  if !result.isVerified then throw (.presentationVerificationFailed result.errors)
  let credential ← embeddedCredential presentation
  let result ← (toolkit.verifyCredential credential options).value "verify_credential"
  if !result.isVerified then throw (.credentialVerificationFailed result.errors)
  let holder := presentation.text? "holder"
  let subject := subject? credential
  if holder = none ∨ holder ≠ subject then throw (.subjectHolderMismatch holder subject)

end WalletCredentials.SignIn

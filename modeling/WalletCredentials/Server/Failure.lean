import WalletCredentials.Exchange.Error
import WalletCredentials.Record.Reader

/-!
# Failures as answers

A failed request is answered with a status and a body that names the failure. What
went wrong inside the server is not told.
-/

namespace WalletCredentials

/-- The body of the answer to a failed request. -/
structure ErrorBody where
  code : String
  message : String
  details : Option Json

namespace ErrorBody

/-- The shape of what the body says about the failure. -/
def detailShape : Shape :=
  .record "ErrorDetail" <|
  .cons (.plain "code") .text <|
  .cons (.plain "message") .text <|
  .cons ⟨"details", false, true⟩ (.optional .any) .nil

instance : Record ErrorBody where
  shape := .record "ErrorBody" <| .cons (.plain "error") detailShape .nil
  toValue b := ((b.code, b.message, b.details, ()), ())
  ofValue := fun ((code, message, details, ()), ()) => ⟨code, message, details⟩

end ErrorBody

/-- Why a request fails. -/
inductive Failure
  /-- A service refuses it. -/
  | exchange (error : ExchangeError)
  /-- The request itself cannot be used. -/
  | badRequest (reason : String)
  | internal (reason : String)
  deriving DecidableEq, Repr

namespace Failure

/-- The wording of a failure. -/
def message : Failure → String
  | .exchange error => error.message
  | .badRequest reason => "bad request: " ++ reason
  | .internal reason => "internal error: " ++ reason

/-- The status and the code of a refusal. -/
def statusOfError : ExchangeError → Nat × String
  | .missingField _ => (400, "MISSING_FIELD")
  | .malformedToken _ => (400, "MALFORMED_TOKEN")
  | .expired _ => (410, "OFFER_EXPIRED")
  | .invalidSignature => (400, "INVALID_SIGNATURE")
  | .unknownOffer _ => (400, "UNKNOWN_OFFER")
  | .issuanceFailed _ => (400, "ISSUANCE_FAILED")
  | .presentationVerificationFailed _ => (422, "PRESENTATION_VERIFICATION_FAILED")
  | .credentialVerificationFailed _ => (422, "CREDENTIAL_VERIFICATION_FAILED")
  | .missingCredential => (400, "MISSING_CREDENTIAL")
  | .malformedPresentation _ => (400, "MALFORMED_PRESENTATION")
  | .subjectHolderMismatch _ _ => (422, "SUBJECT_HOLDER_MISMATCH")
  | .toolkitTimeout _ => (504, "TOOLKIT_TIMEOUT")
  | .toolkit _ _ => (502, "TOOLKIT_ERROR")
  | .internal _ => (500, "INTERNAL_ERROR")

/-- The status and the code of a failure. -/
def statusAndCode : Failure → Nat × String
  | .exchange error => statusOfError error
  | .badRequest _ => (400, "BAD_REQUEST")
  | .internal _ => (500, "INTERNAL_ERROR")

/-- The status of the answer to a failed request. -/
def status (failure : Failure) : Nat := failure.statusAndCode.1

/-- Tells whether the server itself is at fault. -/
def isInternal : Failure → Bool
  | .internal _ => true
  | .exchange (.internal _) => true
  | _ => false

/-- What the answer says beyond the message. -/
def details : Failure → Option Json
  | .exchange (.presentationVerificationFailed errors) => some (.strings errors)
  | .exchange (.credentialVerificationFailed errors) => some (.strings errors)
  | .exchange (.subjectHolderMismatch holder subject) =>
      let text (s : Option String) : Json := (s.map .string).getD .null
      some (.ofMembers [("holder", text holder), ("subject", text subject)])
  | .exchange (.expired expires) => some (.ofMembers [("expires", .string expires)])
  | _ => none

/-- The body of the answer to a failed request. -/
def body (failure : Failure) : ErrorBody where
  code := failure.statusAndCode.2
  message := if failure.isInternal then "An internal error occurred" else failure.message
  details := failure.details

end Failure

end WalletCredentials

import WalletCredentials.SignIn.Request

/-!
# Options and results of proofs

What a proof is made for, what a verifier expects of it, and what the verifier found.
-/

namespace WalletCredentials

/-- What a proof is made for. -/
inductive ProofPurpose
  /-- The issuer asserts what a credential claims. -/
  | assertion
  /-- The holder of a presentation shows who it is. -/
  | authentication
  deriving DecidableEq, Repr

/-- The name of a purpose. -/
def ProofPurpose.text : ProofPurpose → String
  | .assertion => "assertionMethod"
  | .authentication => "authentication"

/-- The shape of a purpose. -/
def ProofPurpose.shape : Shape := .choice ["assertionMethod", "authentication"]

/-- The place of a purpose among the names. -/
def ProofPurpose.index : ProofPurpose → Fin 2
  | .assertion => 0
  | .authentication => 1

/-- A purpose as it is written in records. -/
def ProofPurpose.toJson (purpose : ProofPurpose) : Json := shape.toJson purpose.index

/-- A purpose is written by its name. -/
theorem ProofPurpose.toJson_eq (purpose : ProofPurpose) : purpose.toJson = .string purpose.text := by
  cases purpose with
  | assertion => rfl
  | authentication => rfl

/-- The purpose with a place among the names. -/
def ProofPurpose.ofIndex : Fin 2 → ProofPurpose
  | 0 => .assertion
  | 1 => .authentication

/-- What a signer says about a proof. -/
structure ProofOptions where
  purpose : ProofPurpose
  /-- The address of the signing key. -/
  verificationMethod : String
  challenge : Option String
  domain : Option String
  deriving DecidableEq

namespace ProofOptions

instance : Record ProofOptions where
  shape := .record "ProofOptions" <|
    .cons (.plain "proofPurpose") ProofPurpose.shape <|
    .cons (.plain "verificationMethod") .text <|
    .cons (.optional "challenge") (.optional .text) <|
    .cons (.optional "domain") (.optional .text) .nil
  toValue o := (o.purpose.index, o.verificationMethod, o.challenge, o.domain, ())
  ofValue := fun (purpose, method, challenge, domain, ()) =>
    ⟨.ofIndex purpose, method, challenge, domain⟩

/-- An assertion by an issuer with its own key. -/
def assertion (issuer : Did) : ProofOptions := ⟨.assertion, issuer.verificationMethod, none, none⟩

/-- Authentication of a holder over the challenge and the domain of a verifier. -/
def authentication (holder : Did) (challenge domain : String) : ProofOptions :=
  ⟨.authentication, holder.verificationMethod, some challenge, some domain⟩

end ProofOptions

/-- What a verifier expects of a presentation. -/
structure VerifyOptions where
  /-- The stored request that the presentation answers, if there is one. -/
  request : Option SignInRequest
  domain : String
  purpose : ProofPurpose
  deriving DecidableEq

namespace VerifyOptions

instance : Record VerifyOptions where
  shape := .record "VerifyOptions" <|
    .cons (.plain "challenge") (.optional (Record.shape SignInRequest)) <|
    .cons (.plain "domain") .text <|
    .cons (.plain "proofPurpose") ProofPurpose.shape .nil
  toValue o := (o.request.map Record.toValue, o.domain, o.purpose.index, ())
  ofValue := fun (request, domain, purpose, ()) =>
    ⟨request.map Record.ofValue, domain, .ofIndex purpose⟩

/-- The expectations on a holder who answers a stored request. -/
def authentication (request : Option SignInRequest) (domain : String) : VerifyOptions :=
  ⟨request, domain, .authentication⟩

/-- The challenge that has to be answered. -/
def challenge? (options : VerifyOptions) : Option String := options.request.map (·.challenge)

end VerifyOptions

/-- What a verifier found. -/
structure VerificationResult where
  /-- The checks that were made. -/
  checks : List String
  warnings : List String
  /-- What speaks against the document. -/
  errors : List String
  deriving DecidableEq

namespace VerificationResult

/-- A list of texts that is empty when it is absent. -/
def listField (name : String) : Field := ⟨name, true, false⟩

instance : Record VerificationResult where
  shape := .record "VerificationResult" <|
    .cons (listField "checks") (.list .text) <|
    .cons (listField "warnings") (.list .text) <|
    .cons (listField "errors") (.list .text) .nil
  toValue r := (r.checks, r.warnings, r.errors, ())
  ofValue := fun (checks, warnings, errors, ()) =>
    ⟨checks, warnings, errors⟩

/-- Tells whether nothing speaks against the document. -/
def isVerified (result : VerificationResult) : Bool := result.errors.isEmpty

end VerificationResult

end WalletCredentials

import WalletCredentials.Proof.Signing

/-!
# Verifying credentials and presentations

Beyond its proof, a credential has to be signed by its issuer and must not have
expired, and a presentation has to answer the verifier's challenge for the verifier's
domain and be signed by the holder that it states. All findings are reported.
-/

namespace WalletCredentials

/-- What speaks against a document. -/
inductive Finding
  | proof (fault : Proof.Fault)
  | issuer (signer : Did)
  | expired
  | expiration (error : InputError)
  | domain (expected : String)
  | challenge
  | unknownChallenge
  | holder (stated : String) (signer : Did)
  deriving DecidableEq

/-- The wording of a finding. -/
def Finding.message : Finding → String
  | .proof fault => fault.message
  | .issuer signer => "issuer is not the signer " ++ signer.text
  | .expired => "credential has expired"
  | .expiration error => error.message
  | .domain expected => "domain mismatch: expected " ++ expected
  | .challenge => "challenge mismatch"
  | .unknownChallenge => "challenge not recognised"
  | .holder stated signer => "holder " ++ stated ++ " is not the signer " ++ signer.text

/-- The finding, where a condition fails. -/
def Finding.unless (condition : Bool) (finding : Finding) : List Finding :=
  if condition then [] else [finding]

/-- The result of checks with their findings. -/
def VerificationResult.ofFindings (checks : List String) (findings : List Finding) :
    VerificationResult :=
  ⟨checks, [], findings.map Finding.message⟩

namespace Proof

/-- What speaks against the proof of a credential and against its issuer. -/
def issuerFindings (credential : Json) : List Finding :=
  match check credential .assertion with
  | .error fault => [.proof fault]
  | .ok (signer, _) =>
      Finding.unless (credential.text? "issuer" = some signer.text) (.issuer signer)

/-- What speaks against the end of the validity of a credential. -/
def expirationFindings (clock : Timestamp) (text : String) : List Finding :=
  match Timestamp.read text with
  | .ok t => Finding.unless (!t.isPassedAt clock) .expired
  | .error e => [.expiration e]

/-- Verifies a credential. -/
def verifyCredential (clock : Timestamp) (credential : Json) : VerificationResult :=
  match credential.text? "expirationDate" with
  | none => .ofFindings ["proof"] (issuerFindings credential)
  | some text =>
      .ofFindings ["proof", "expiration"]
        (issuerFindings credential ++ expirationFindings clock text)

/-- What speaks against the challenge of a proof. -/
def challengeFindings (options : VerifyOptions) (challenge : Option String) : List Finding :=
  match options.challenge? with
  | some expected => Finding.unless (challenge = some expected) .challenge
  | none => [.unknownChallenge]

/-- What speaks against the holder that a presentation states. -/
def holderFindings (presentation : Json) (signer : Did) : List Finding :=
  match presentation.text? "holder" with
  | some stated => Finding.unless (stated = signer.text) (.holder stated signer)
  | none => []

/-- What speaks against a presentation. -/
def presentationFindings (presentation : Json) (options : VerifyOptions) : List Finding :=
  match check presentation options.purpose with
  | .error fault => [.proof fault]
  | .ok (signer, proof) =>
      let text? (name : String) : Option String := (Dictionary.find? name proof).bind Json.string?
      Finding.unless (text? "domain" = some options.domain) (.domain options.domain) ++
        challengeFindings options (text? "challenge") ++ holderFindings presentation signer

/-- Verifies a presentation. -/
def verifyPresentation (presentation : Json) (options : VerifyOptions) : VerificationResult :=
  .ofFindings ["proof"] (presentationFindings presentation options)

end Proof

end WalletCredentials

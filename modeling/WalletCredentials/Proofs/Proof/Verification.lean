import WalletCredentials.Proof.Verification
import WalletCredentials.Proofs.Proof.Signing
import WalletCredentials.Proofs.Timestamp.Order

/-!
# Documents that nothing speaks against

A verifier reports all its findings, and a document is verified if there are none. So each
check contributes one condition, and the conditions can be read off the list of findings.
-/

namespace WalletCredentials

theorem Finding.unless_eq_nil_iff {condition : Bool} {finding : Finding} :
    Finding.unless condition finding = [] ↔ condition = true := by
  cases condition <;> simp [Finding.unless]

theorem VerificationResult.isVerified_ofFindings {checks : List String}
    {findings : List Finding} :
    (VerificationResult.ofFindings checks findings).isVerified = true ↔ findings = [] := by
  simp [VerificationResult.isVerified, VerificationResult.ofFindings]

namespace Proof

theorem issuerFindings_eq_nil_iff {credential : Json} :
    issuerFindings credential = [] ↔
      ∃ members proof key, credential = .object members ∧
        IsValid members proof .assertion key ∧
        credential.text? "issuer" = some (DidKey.ofPublicKey key).text := by
  rw [issuerFindings]
  constructor
  · intro h
    split at h
    · cases h
    · rename_i signer proof hcheck
      obtain ⟨members, key, hobject, rfl, hvalid⟩ := check_eq_ok_iff.mp hcheck
      rw [Finding.unless_eq_nil_iff, decide_eq_true_iff] at h
      exact ⟨members, proof, key, hobject, hvalid, h⟩
  · rintro ⟨members, proof, key, hobject, hvalid, hissuer⟩
    rw [check_eq_ok_iff.mpr ⟨members, key, hobject, rfl, hvalid⟩]
    exact Finding.unless_eq_nil_iff.mpr (decide_eq_true hissuer)

theorem expirationFindings_eq_nil_iff {clock : Timestamp} {text : String} :
    expirationFindings clock text = [] ↔ ∃ last, Timestamp.read text = .ok last ∧ clock ≤ last := by
  rw [expirationFindings]
  cases Timestamp.read text with
  | error e => simp
  | ok last =>
      simp [Finding.unless_eq_nil_iff, Timestamp.isPassedAt_eq_false_iff]

/-- A credential is verified exactly if its issuer has signed it and the end of its validity,
if it states one, can be read and has not passed. -/
theorem isVerified_verifyCredential_iff {clock : Timestamp} {credential : Json} :
    (verifyCredential clock credential).isVerified = true ↔
      (∃ members proof key, credential = .object members ∧
        IsValid members proof .assertion key ∧
        credential.text? "issuer" = some (DidKey.ofPublicKey key).text) ∧
      ∀ text, credential.text? "expirationDate" = some text →
        ∃ last, Timestamp.read text = .ok last ∧ clock ≤ last := by
  rw [verifyCredential]
  cases credential.text? "expirationDate" with
  | none => simp [VerificationResult.isVerified_ofFindings, issuerFindings_eq_nil_iff]
  | some text =>
      simp [VerificationResult.isVerified_ofFindings, issuerFindings_eq_nil_iff,
        expirationFindings_eq_nil_iff]

theorem challengeFindings_eq_nil_iff {options : VerifyOptions} {challenge : Option String} :
    challengeFindings options challenge = [] ↔
      ∃ request, options.request = some request ∧ challenge = some request.challenge := by
  obtain ⟨request, domain, purpose⟩ := options
  cases request with
  | none => simp [challengeFindings, VerifyOptions.challenge?]
  | some request =>
      simp [challengeFindings, VerifyOptions.challenge?, Finding.unless_eq_nil_iff]

theorem holderFindings_eq_nil_iff {presentation : Json} {signer : Did} :
    holderFindings presentation signer = [] ↔
      ∀ stated, presentation.text? "holder" = some stated → stated = signer.text := by
  rw [holderFindings]
  cases presentation.text? "holder" with
  | none => simp
  | some stated => simp [Finding.unless_eq_nil_iff]

/-- A presentation is verified exactly if a key has signed it for the domain and for the
challenge of the stored request, and no other holder is stated. -/
theorem isVerified_verifyPresentation_iff {presentation : Json} {options : VerifyOptions} :
    (verifyPresentation presentation options).isVerified = true ↔
      ∃ members proof key request, presentation = .object members ∧
        IsValid members proof options.purpose key ∧ options.request = some request ∧
        (Json.object proof).text? "domain" = some options.domain ∧
        (Json.object proof).text? "challenge" = some request.challenge ∧
        ∀ stated, presentation.text? "holder" = some stated →
          stated = (DidKey.ofPublicKey key).text := by
  rw [verifyPresentation, VerificationResult.isVerified_ofFindings, presentationFindings]
  constructor
  · intro h
    split at h
    · cases h
    · rename_i signer proof hcheck
      obtain ⟨members, key, hobject, rfl, hvalid⟩ := check_eq_ok_iff.mp hcheck
      simp only [List.append_eq_nil_iff, Finding.unless_eq_nil_iff, decide_eq_true_iff,
        challengeFindings_eq_nil_iff, holderFindings_eq_nil_iff] at h
      obtain ⟨⟨hdomain, request, hrequest, hchallenge⟩, hholder⟩ := h
      exact ⟨members, proof, key, request, hobject, hvalid, hrequest, hdomain, hchallenge, hholder⟩
  · rintro ⟨members, proof, key, request, hobject, hvalid, hrequest, hdomain, hchallenge, hholder⟩
    rw [check_eq_ok_iff.mpr ⟨members, key, hobject, rfl, hvalid⟩]
    simp only [List.append_eq_nil_iff, Finding.unless_eq_nil_iff, decide_eq_true_iff,
      challengeFindings_eq_nil_iff, holderFindings_eq_nil_iff]
    exact ⟨⟨hdomain, request, hrequest, hchallenge⟩, hholder⟩

end Proof

end WalletCredentials

import WalletCredentials.Proofs.Proof.Verification
import WalletCredentials.Toolkit.Basic

/-!
# The end of a credential

A credential states the end of its validity in a member of its own. What a text says there counts: a
time is compared with the clock, and a text that is no time is reported. Any other value is passed
over, so that the credential is taken for one that never ends.
-/

namespace WalletCredentials.Proof

open Ed25519

variable {clock last : Timestamp} {credential stated : Json} {text : String}

/-- Signing changes none of the other members. -/
theorem member?_withProof {created : Timestamp} {members : List (String × Json)}
    {options : ProofOptions} {pair : KeyPair} {name : String} (h : "proof" ≠ name) :
    (Json.object (withProof created members options pair)).member? name =
      Dictionary.find? name members := by
  rw [Json.member?, withProof, Dictionary.find?_insert, if_neg h]

/-- Nothing speaks against the issuer of a credential that states the signing key as its issuer. -/
theorem issuerFindings_withProof {created : Timestamp} {members : List (String × Json)}
    {pair : KeyPair}
    (h : (Json.object (withProof created members (.assertion (DidKey.ofPublicKey pair.publicKey))
      pair)).text? "issuer" = some (DidKey.ofPublicKey pair.publicKey).text) :
    issuerFindings (.object (withProof created members
      (.assertion (DidKey.ofPublicKey pair.publicKey)) pair)) = [] := by
  have hvalid := isValid_withProof created members
    (.assertion (DidKey.ofPublicKey pair.publicKey)) pair
    (DidKey.ofUrl_verificationMethod pair.publicKey)
  exact issuerFindings_eq_nil_iff.mpr ⟨_, _, pair.publicKey, rfl, hvalid, h⟩

theorem expirationFindings_of_lt (hread : Timestamp.read text = .ok last) (h : last < clock) :
    expirationFindings clock text = [.expired] := by
  have hpassed : last.isPassedAt clock = true := by
    rw [← Bool.not_eq_false, Timestamp.isPassedAt_eq_false_iff]
    exact not_le.mpr h
  rw [expirationFindings, hread]
  simp only [hpassed, Finding.unless]
  rfl

/-- The findings on a credential with a text at its end. -/
theorem verifyCredential_of_text (h : credential.text? "expirationDate" = some text) :
    verifyCredential clock credential = .ofFindings ["proof", "expiration"]
      (issuerFindings credential ++ expirationFindings clock text) := by
  rw [verifyCredential, h]

/-- The findings on a credential without a text there are the same at every time. -/
theorem verifyCredential_of_no_text (clock : Timestamp)
    (h : credential.text? "expirationDate" = none) :
    verifyCredential clock credential = .ofFindings ["proof"] (issuerFindings credential) := by
  rw [verifyCredential, h]

/-- What a verification says of a credential that states an end. -/
structure JudgesEnd (clock : Timestamp) (credential stated : Json) (result : VerificationResult) :
    Prop where
  errors_iff : result.errors = [] ↔ issuerFindings credential = [] ∧
    ∀ text, stated = .string text → ∃ last, Timestamp.read text = .ok last ∧ clock ≤ last
  unreadable : ∀ text error, stated = .string text → Timestamp.read text = .error error →
    error.message ∈ result.errors
  expired : ∀ text last, stated = .string text → Timestamp.read text = .ok last → last < clock →
    "credential has expired" ∈ result.errors
  /-- A value that is no text is not looked at, and the same is said at every time. -/
  passed_over : (∀ text, stated ≠ .string text) → result.checks = ["proof"] ∧
    ∀ clock' options, (Toolkit.ofClock clock').verifyCredential credential options =
      .done (.ok result)

theorem judgesEnd_of_text (h : credential.text? "expirationDate" = some text) :
    JudgesEnd clock credential (.string text) (verifyCredential clock credential) := by
  rw [verifyCredential_of_text h]
  constructor
  case errors_iff =>
    simp only [VerificationResult.ofFindings, List.map_eq_nil_iff, List.append_eq_nil_iff,
      expirationFindings_eq_nil_iff, Json.string.injEq, forall_eq']
  case unreadable =>
    rintro _ error ⟨⟩ hread
    refine List.mem_map.mpr ⟨.expiration error, List.mem_append_right _ ?_, rfl⟩
    rw [expirationFindings, hread]
    exact List.mem_singleton_self _
  case expired =>
    rintro _ last ⟨⟩ hread hlast
    refine List.mem_map.mpr ⟨.expired, List.mem_append_right _ ?_, rfl⟩
    rw [expirationFindings_of_lt hread hlast]
    exact List.mem_singleton_self _
  case passed_over => exact fun h => absurd rfl (h text)

theorem judgesEnd_of_no_text (hstated : ∀ text, stated ≠ .string text)
    (h : credential.text? "expirationDate" = none) :
    JudgesEnd clock credential stated (verifyCredential clock credential) := by
  constructor
  case errors_iff =>
    rw [verifyCredential_of_no_text clock h, VerificationResult.ofFindings, List.map_eq_nil_iff]
    exact (and_iff_left fun text htext => absurd htext (hstated text)).symm
  case unreadable => exact fun text _ htext => absurd htext (hstated text)
  case expired => exact fun text _ htext => absurd htext (hstated text)
  case passed_over =>
    intro _
    rw [verifyCredential_of_no_text clock h]
    refine ⟨rfl, fun clock' options => ?_⟩
    -- The clock is read for an end in a text alone, so that the findings are those of any other time.
    rw [← verifyCredential_of_no_text clock' h]
    rfl

/-- A credential that states an end as a text is verified only if the text is a time that has not
passed. One that states it in any other way is verified at every time if its issuer has signed it. -/
theorem judgesEnd_of_verifyCredential {options : VerifyOptions} {result : VerificationResult}
    (hstated : credential.member? "expirationDate" = some stated)
    (hverify : (Toolkit.ofClock clock).verifyCredential credential options = .done (.ok result)) :
    JudgesEnd clock credential stated result := by
  cases hverify
  have htext : credential.text? "expirationDate" = stated.string? := by
    rw [Json.text?, hstated, Option.bind_some]
  cases stated with
  | string text => exact judgesEnd_of_text htext
  | _ => exact judgesEnd_of_no_text (by simp) htext

/-- A credential whose end is a number is verified at every time. -/
theorem verified_with_number_as_end :
    let pair : KeyPair := ⟨List.replicate 32 7, rfl⟩
    let issuer := DidKey.ofPublicKey pair.publicKey
    let credential := Json.object (withProof ⟨0, false, by decide, by decide⟩
      [("expirationDate", .number (.whole 0)), ("issuer", .string issuer.text)]
      (.assertion issuer) pair)
    credential.member? "expirationDate" = some (.number (.whole 0)) ∧
      ∃ result : VerificationResult, result.errors = [] ∧ ∀ clock options,
        (Toolkit.ofClock clock).verifyCredential credential options = .done (.ok result) := by
  intro pair issuer credential
  have hstated : credential.member? "expirationDate" = some (.number (.whole 0)) :=
    member?_withProof (by decide)
  have hissuer : credential.text? "issuer" = some issuer.text := by
    rw [Json.text?, member?_withProof (by decide)]
    rfl
  have hverify : (Toolkit.ofClock ⟨0, false, by decide, by decide⟩).verifyCredential credential
      ⟨none, "shop.example", .authentication⟩ =
    .done (.ok (verifyCredential ⟨0, false, by decide, by decide⟩ credential)) := rfl
  have hjudges := judgesEnd_of_verifyCredential hstated hverify
  exact ⟨hstated, _, hjudges.errors_iff.mpr ⟨issuerFindings_withProof hissuer, by simp⟩,
    (hjudges.passed_over (by simp)).2⟩

end WalletCredentials.Proof

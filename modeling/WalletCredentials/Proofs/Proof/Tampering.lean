import WalletCredentials.Proofs.Crypto.SignatureBinding
import WalletCredentials.Proofs.Proof.Signing
import WalletCredentials.Proofs.Proof.SigningInput

/-!
# A proof in another document

A proof that is accepted in one document may be put into another one that differs from it. Then
the check comes to the signature as it did before, and it depends on the order of the key's point
whether the other document is refused. For the key of a key pair, and for every other key but
those of small order, it is refused unless two different messages have one challenge.
-/

namespace WalletCredentials.Proof

open Ed25519 Edwards

variable {members members' proof : List (String × Json)} {purpose : ProofPurpose} {key : PublicKey}
variable {signature : Signature} {signer : Did} {Q : CurvePoint}

/-- What the proof of a document states, apart from whether it is signed. -/
structure States (proof : List (String × Json)) (purpose : ProofPurpose) (key : PublicKey)
    (signature : Signature) : Prop where
  purpose_eq : (Json.object proof).text? "proofPurpose" = some purpose.text
  method : ∃ method, (Json.object proof).text? "verificationMethod" = some method ∧
    DidKey.ofUrl method = (DidKey.ofPublicKey key).text
  value : (Json.object proof).text? "proofValue" = some (valueOfSignature signature)

/-- The check of a proof that states all it has to depends on its signature alone. -/
theorem States.check_eq (h : States proof purpose key signature)
    (hattached : Dictionary.find? "proof" members = some (.object proof)) :
    check (.object members) purpose =
      ((verify (signingInput members proof) signature key).mapError fun _ => Fault.signature).map
        fun _ => (DidKey.ofPublicKey key, proof) := by
  obtain ⟨hpurpose, ⟨method, hmethod, hurl⟩, hvalue⟩ := h
  have hread : DidKey.read (DidKey.ofUrl method) = .ok (DidKey.ofPublicKey key, key) :=
    DidKey.read_eq_ok_iff.mpr ⟨rfl, hurl.symm⟩
  have hsignature : Signature.ofBytes signature.bytes = .ok signature :=
    Signature.ofBytes_eq_ok_iff.mpr rfl
  simp only [Json.text?, Json.member?] at hpurpose hmethod hvalue
  have hbytes : ((Dictionary.find? "proofValue" proof).bind Json.string?).bind bytesOfValue? =
      some signature.bytes := by
    rw [hvalue, Option.bind_some]
    exact bytesOfValue?_eq_some_iff.mpr rfl
  generalize hresult : verify (signingInput members proof) signature key = result
  simp only [check, Json.members?, orFault, hattached, hpurpose, hmethod, hread, ok_bind,
    Option.bind_some, Option.getD_some, mapError_ok, ne_eq, not_true_eq_false, if_false]
  -- The last two parts are rewritten one by one, as a simplifier would evaluate the signature.
  rw [hbytes]
  dsimp only
  rw [ok_bind, hsignature, mapError_ok, ok_bind, hresult]
  cases result with
  | ok _ => rfl
  | error _ => rfl

/-- A proof that is accepted states all it has to, and its key is read as a point. -/
theorem exists_states_of_check (h : check (.object members) purpose = .ok (signer, proof)) :
    ∃ key signature Q, signer = DidKey.ofPublicKey key ∧ States proof purpose key signature ∧
      Dictionary.find? "proof" members = some (.object proof) ∧ key.IsAt Q ∧
      verify (signingInput members proof) signature key = .ok () := by
  obtain ⟨_, key, hmembers, rfl, hvalid⟩ := check_eq_ok_iff.mp h
  cases hmembers
  obtain ⟨signature, hvalue, hverify⟩ := hvalid.signed
  obtain ⟨Q, hQ⟩ := exists_isAt_of_verify hverify
  exact ⟨key, signature, Q, rfl, ⟨hvalid.stated_purpose, hvalid.names_key, hvalue⟩,
    hvalid.attached, hQ, hverify⟩

/-- What becomes of the proof of one document in another one. -/
structure IsMoved (members members' proof : List (String × Json)) (purpose : ProofPurpose)
    (key : PublicKey) (signature : Signature) (Q : CurvePoint) : Prop where
  isAt : key.IsAt Q
  /-- What is signed is not what would have to be signed in the other document. -/
  input_ne : signingInput members proof ≠ signingInput members' proof
  accepted_iff : check (.object members') purpose = .ok (DidKey.ofPublicKey key, proof) ↔
    signature.challengeOf key (signingInput members proof) ≡
      signature.challengeOf key (signingInput members' proof) [MOD addOrderOf Q]
  refused : check (.object members') purpose ≠ .ok (DidKey.ofPublicKey key, proof) →
    check (.object members') purpose = .error .signature
  /-- The order of the point is small, or only a collision of challenges lets the proof pass. -/
  order_cases : addOrderOf Q ∣ 8 ∨ order ∣ addOrderOf Q ∧
    (check (.object members') purpose = .ok (DidKey.ofPublicKey key, proof) ↔
      signature.challengeOf key (signingInput members proof) =
        signature.challengeOf key (signingInput members' proof))
  /-- The order is not small for the key of a key pair. -/
  order_dvd : ∀ pair : KeyPair, key = pair.publicKey → order ∣ addOrderOf Q

/-- Challenges that agree modulo a multiple of the order of the base point are the same. -/
theorem challengeOf_eq_of_modEq {message message' : List UInt8} (horder : order ∣ addOrderOf Q)
    (h : signature.challengeOf key message ≡ signature.challengeOf key message'
      [MOD addOrderOf Q]) :
    signature.challengeOf key message = signature.challengeOf key message' :=
  Nat.ModEq.eq_of_lt_of_lt (h.of_dvd horder) challengeOf_lt challengeOf_lt

/-- Of a proof that is signed by a key of a point, the signature decides in any document. -/
theorem States.check_eq_ok_iff_modEq (h : States proof purpose key signature) (hQ : key.IsAt Q)
    (hverify : verify (signingInput members proof) signature key = .ok ())
    (hattached : Dictionary.find? "proof" members' = some (.object proof)) :
    check (.object members') purpose = .ok (DidKey.ofPublicKey key, proof) ↔
      signature.challengeOf key (signingInput members proof) ≡
        signature.challengeOf key (signingInput members' proof) [MOD addOrderOf Q] := by
  rw [h.check_eq hattached, ← verify_iff_modEq hQ hverify]
  cases verify (signingInput members' proof) signature key with
  | ok _ => exact iff_of_true rfl rfl
  | error _ => exact iff_of_false nofun nofun

/-- A proof that is accepted in one document is put into another one, which differs from it apart
from the proof. It is accepted there exactly if the challenges of both agree modulo the order of the
key's point, and refused for its signature otherwise. For the key of a key pair, and for any key
whose order is not one of at most eight, they agree only where they are the same. -/
theorem isMoved_of_check (hdocument : (Json.object members).IsIntegral)
    (hdocument' : (Json.object members').IsIntegral)
    (hcheck : check (.object members) purpose = .ok (signer, proof))
    (hattached' : Dictionary.find? "proof" members' = some (.object proof))
    (hne : Dictionary.erase "proof" members ≠ Dictionary.erase "proof" members') :
    ∃ key signature Q, signer = DidKey.ofPublicKey key ∧
      (Json.object proof).text? "proofValue" = some (valueOfSignature signature) ∧
      IsMoved members members' proof purpose key signature Q := by
  obtain ⟨key, signature, Q, rfl, hstates, hattached, hQ, hverify⟩ := exists_states_of_check hcheck
  have hproof : (Json.object proof).IsIntegral := by
    cases hdocument with
    | object _ h => exact h _ (Dictionary.mem_of_find?_eq_some hattached)
  have haccepted := hstates.check_eq_ok_iff_modEq hQ hverify hattached'
  refine ⟨key, signature, Q, rfl, hstates.value, hQ, ?_, haccepted, ?_, ?_, ?_⟩
  · intro hinput
    exact hne ((signingInput_inj hdocument hdocument' hproof hproof).mp hinput).1
  · intro hrefused
    rw [hstates.check_eq hattached'] at hrefused ⊢
    cases hresult : verify (signingInput members' proof) signature key with
    | ok _ =>
        rw [hresult] at hrefused
        exact absurd rfl hrefused
    | error _ => rfl
  · refine Q.addOrderOf_dvd_or.imp_right fun horder => ⟨horder, haccepted.trans ⟨?_, ?_⟩⟩
    · exact challengeOf_eq_of_modEq horder
    · intro heq
      rw [heq]
  · rintro pair rfl
    rw [hQ.unique (isAt_publicKey pair)]
    exact order_dvd_addOrderOf_keyPoint pair

/-- A proof by the key of the neutral point, which no one holds a secret for. -/
def neutralProof : List (String × Json) :=
  [("proofPurpose", .string "assertionMethod"),
    ("proofValue", .string (valueOfSignature .neutral)),
    ("verificationMethod", .string (DidKey.ofPublicKey .neutral).verificationMethod)]

theorem sorted_neutralProof : Dictionary.Sorted neutralProof := by
  refine List.pairwise_cons.mpr ⟨?_, List.pairwise_pair.mpr ?_⟩
  · intro m hm
    simp only [List.mem_cons, List.not_mem_nil, or_false] at hm
    rcases hm with rfl | rfl
    · exact show "proofPurpose" < "proofValue" by decide
    · exact show "proofPurpose" < "verificationMethod" by decide
  · exact show "proofValue" < "verificationMethod" by decide

theorem isIntegral_withNeutralProof (id : String) :
    (Json.object [("id", .string id), ("proof", .object neutralProof)]).IsIntegral := by
  have hproof : (Json.object neutralProof).IsIntegral := by
    refine .object sorted_neutralProof fun m hm => ?_
    simp only [neutralProof, List.mem_cons, List.not_mem_nil, or_false] at hm
    rcases hm with rfl | rfl | rfl <;> exact .string _
  exact .object (List.pairwise_pair.mpr (show "id" < "proof" by decide))
    (List.forall_mem_cons.mpr ⟨.string _, List.forall_mem_singleton.mpr hproof⟩)

theorem check_withNeutralProof (id : String) :
    check (.object [("id", .string id), ("proof", .object neutralProof)]) .assertion =
      .ok (DidKey.ofPublicKey .neutral, neutralProof) :=
  check_eq_ok_iff.mpr ⟨_, .neutral, rfl, rfl, rfl, rfl,
    ⟨_, rfl, DidKey.ofUrl_verificationMethod _⟩, .neutral, rfl, verify_neutral _⟩

/-- One proof by the key of the neutral point is accepted in two different documents. -/
theorem accepted_of_moved_neutralProof :
    let document (id : String) := [("id", Json.string id), ("proof", .object neutralProof)]
    check (.object (document "did:example:alice")) .assertion =
        .ok (DidKey.ofPublicKey .neutral, neutralProof) ∧
      Dictionary.erase "proof" (document "did:example:alice") ≠
        Dictionary.erase "proof" (document "did:example:mallory") ∧
      check (.object (document "did:example:mallory")) .assertion =
        .ok (DidKey.ofPublicKey .neutral, neutralProof) := by
  intro document
  have hne : Dictionary.erase "proof" (document "did:example:alice") ≠
      Dictionary.erase "proof" (document "did:example:mallory") := by
    intro h
    simp [document, Dictionary.erase] at h
  obtain ⟨key, signature, Q, hsigner, -, hmoved⟩ := isMoved_of_check
    (isIntegral_withNeutralProof "did:example:alice")
    (isIntegral_withNeutralProof "did:example:mallory")
    (check_withNeutralProof "did:example:alice") rfl hne
  cases DidKey.ofPublicKey_injective hsigner
  refine ⟨check_withNeutralProof _, hne, hmoved.accepted_iff.mpr ?_⟩
  rw [hmoved.isAt.unique isAt_neutral, addOrderOf_zero]
  exact Nat.modEq_one

end WalletCredentials.Proof

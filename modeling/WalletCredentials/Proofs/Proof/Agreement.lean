import WalletCredentials.Proofs.Proof.Signing

/-!
# Signing and checking agree

The signer works with a document that does not hold its proof yet, with a private key and with a
purpose; the checker finds the proof in the document, the key in an identifier and the purpose in
a text. A signed document passes the check for the purpose that it was signed for, and the check
for the other purpose refuses it, whatever proof the document held before.
-/

namespace WalletCredentials

theorem ProofPurpose.text_injective {purpose purpose' : ProofPurpose}
    (h : purpose.text = purpose'.text) : purpose = purpose' := by
  cases purpose <;> cases purpose' <;> first | rfl | exact absurd h (by decide)

namespace Proof

open Ed25519

/-- What a document that is signed for options is to the document that was to be signed. -/
structure IsSignedFor (options : ProofOptions) (signer : Did)
    (members signed proof : List (String × Json)) : Prop where
  /-- Nothing but the proof is changed. -/
  others_kept : Dictionary.erase "proof" signed = Dictionary.erase "proof" members
  attached : Dictionary.find? "proof" signed = some (.object proof)
  /-- The proof states the purpose as a record of the options does. -/
  states_purpose :
    Dictionary.find? "proofPurpose" proof = some (ProofPurpose.shape.toJson options.purpose.index)
  states_options :
    (Json.object proof).text? "verificationMethod" = some options.verificationMethod ∧
    (Json.object proof).text? "challenge" = options.challenge ∧
    (Json.object proof).text? "domain" = options.domain
  accepted : check (.object signed) options.purpose = .ok (signer, proof)
  refused : ∀ purpose, purpose ≠ options.purpose →
    check (.object signed) purpose = .error (.purpose purpose options.purpose.text)

variable {created : Timestamp} {members proof : List (String × Json)} {options : ProofOptions}
variable {pair : KeyPair}

/-- A check refuses a proof that states another purpose than the one that is asked for. -/
theorem check_of_purpose_ne {purpose : ProofPurpose} {found : String}
    (hproof : Dictionary.find? "proof" members = some (.object proof))
    (hfound : (Json.object proof).text? "proofPurpose" = some found) (h : found ≠ purpose.text) :
    check (.object members) purpose = .error (.purpose purpose found) := by
  have hstated : (Dictionary.find? "proofPurpose" proof).bind Json.string? = some found := hfound
  simp only [check, Json.members?, orFault, hproof, hstated, ok_bind, Option.bind_some,
    Option.getD_some]
  rw [if_pos h]
  rfl

/-- What a key pair attaches to the members of a document makes it signed for the options. -/
theorem isSignedFor_withProof
    (h : DidKey.ofUrl options.verificationMethod = (DidKey.ofPublicKey pair.publicKey).text) :
    IsSignedFor options (DidKey.ofPublicKey pair.publicKey) members
      (withProof created members options pair) (signedMembers created members options pair) := by
  have hvalid := isValid_withProof created members options pair h
  have hstated (name : String) (hname : "proofValue" ≠ name) :
      (Json.object (signedMembers created members options pair)).text? name =
        (Json.object (unsignedMembers created options)).text? name := by
    simp only [Json.text?, Json.member?, find?_signedMembers _ _ _ _ _ hname]
  obtain ⟨-, hmethod, hchallenge, hdomain⟩ := text?_unsignedMembers created options
  constructor
  · exact Dictionary.erase_insert _ _ _
  · exact hvalid.attached
  · have hpurpose := text?_object_eq_some_iff.mp hvalid.stated_purpose
    rw [← ProofPurpose.toJson_eq] at hpurpose
    exact hpurpose
  · rw [hstated _ (by decide), hstated _ (by decide), hstated _ (by decide)]
    exact ⟨hmethod, hchallenge, hdomain⟩
  · exact check_eq_ok_iff.mpr ⟨_, pair.publicKey, rfl, rfl, hvalid⟩
  · intro purpose hne
    apply check_of_purpose_ne hvalid.attached hvalid.stated_purpose
    intro htext
    exact hne (ProofPurpose.text_injective htext).symm

/-- Signing succeeds exactly if the document is an object, the key is read as a key pair, and the
address in the options leads to the identifier of that pair. The signed document is then the
document with a proof, in place of an earlier one, which the check for the purpose of the options
accepts as the work of that identifier and the check for the other purpose refuses. -/
theorem check_of_sign (created : Timestamp) (document : Json) (options : ProofOptions) (key : Jwk) :
    ((∃ result, sign created document options key = .ok result) ↔
      (∃ members, document = .object members) ∧
      ∃ pair, key.StandsFor pair ∧
        DidKey.ofUrl options.verificationMethod = (DidKey.ofPublicKey pair.publicKey).text) ∧
    ∀ result, sign created document options key = .ok result →
      ∃ members signed proof pair, document = .object members ∧ result = .object signed ∧
        key.StandsFor pair ∧
        DidKey.ofUrl options.verificationMethod = (DidKey.ofPublicKey pair.publicKey).text ∧
        IsSignedFor options (DidKey.ofPublicKey pair.publicKey) members signed proof := by
  simp only [sign_eq_ok_iff, ← Jwk.standsFor_iff]
  constructor
  · constructor
    · rintro ⟨-, members, pair, hdocument, hkey, hurl, -⟩
      exact ⟨⟨members, hdocument⟩, pair, hkey, hurl⟩
    · rintro ⟨⟨members, hdocument⟩, pair, hkey, hurl⟩
      exact ⟨_, members, pair, hdocument, hkey, hurl, rfl⟩
  · rintro result ⟨members, pair, hdocument, hkey, hurl, hresult⟩
    exact ⟨members, _, _, pair, hdocument, hresult, hkey, hurl, isSignedFor_withProof hurl⟩

/-- A document with a stale proof is signed for authentication without a challenge. -/
theorem check_of_signed_again :
    let pair : KeyPair := ⟨List.replicate 32 7, rfl⟩
    let stale := Json.object [("proofPurpose", .string "assertionMethod"), ("proofValue", .null)]
    let options : ProofOptions := ⟨.authentication,
      (DidKey.ofPublicKey pair.publicKey).verificationMethod, none, some "shop.example"⟩
    ∃ signed proof,
      sign ⟨0, false, by decide, nofun⟩ (.object [("holder", .string "me"), ("proof", stale)])
          options (.ofKeyPair pair) = .ok (.object signed) ∧
        Dictionary.find? "holder" signed = some (.string "me") ∧
        check (.object signed) .authentication = .ok (DidKey.ofPublicKey pair.publicKey, proof) ∧
        check (.object signed) .assertion = .error (.purpose .assertion "authentication") := by
  intro pair stale options
  obtain ⟨hiff, hresult⟩ := check_of_sign ⟨0, false, by decide, nofun⟩
    (.object [("holder", .string "me"), ("proof", stale)]) options (.ofKeyPair pair)
  obtain ⟨result, hsign⟩ := hiff.mpr ⟨⟨_, rfl⟩, pair, Jwk.standsFor_iff.mpr rfl,
    DidKey.ofUrl_verificationMethod pair.publicKey⟩
  obtain ⟨members, signed, proof, pair', hmembers, rfl, hkey, -, hsigned⟩ := hresult result hsign
  have hpair := Jwk.keyPair_eq_ok_iff.mpr (Jwk.standsFor_iff.mp hkey)
  rw [Jwk.keyPair_ofKeyPair, Except.ok.injEq] at hpair
  subst hpair
  have hholder := congrArg (Dictionary.find? "holder") hsigned.others_kept
  rw [Dictionary.find?_erase, if_neg (by decide), Dictionary.find?_erase, if_neg (by decide)]
    at hholder
  rw [← Json.object.inj hmembers] at hholder
  exact ⟨signed, proof, hsign, hholder, hsigned.accepted, hsigned.refused .assertion nofun⟩

end Proof

end WalletCredentials

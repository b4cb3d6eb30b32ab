import WalletCredentials.Proof.Signing
import WalletCredentials.Proofs.Crypto.Signature
import WalletCredentials.Proofs.Dictionary
import WalletCredentials.Proofs.DidKey
import WalletCredentials.Proofs.Jwk

/-!
# Proofs that hold

A check accepts a proof exactly if it states its purpose, names a key and holds a signature
of that key over the document. Signing attaches such a proof and changes nothing else.
-/

namespace WalletCredentials.Proof

open Ed25519

/-- What makes a proof among the members of a document valid for a purpose, as the work of
a key. -/
structure IsValid (members proof : List (String × Json)) (purpose : ProofPurpose)
    (key : PublicKey) : Prop where
  attached : Dictionary.find? "proof" members = some (.object proof)
  stated_purpose : (Json.object proof).text? "proofPurpose" = some purpose.text
  /-- The proof names the key by an address of its identifier. -/
  names_key : ∃ method, (Json.object proof).text? "verificationMethod" = some method ∧
    DidKey.ofUrl method = (DidKey.ofPublicKey key).text
  signed : ∃ signature, (Json.object proof).text? "proofValue" =
      some (valueOfSignature signature) ∧
    verify (signingInput members proof) signature key = .ok ()

theorem orFault_eq_ok_iff {α : Type} {fault : Fault} {result : Option α} {a : α} :
    orFault fault result = .ok a ↔ result = some a := by
  cases result with
  | none => simp [orFault]
  | some a' => simp [orFault]

theorem members?_eq_some_iff {value : Json} {members : List (String × Json)} :
    value.members? = some members ↔ value = .object members := by
  cases value <;> simp [Json.members?]

theorem bytesOfValue?_eq_some_iff {text : String} {bytes : List UInt8} :
    bytesOfValue? text = some bytes ↔ text = "u" ++ Base64Url.encode bytes := by
  have hchars : ("u" ++ Base64Url.encode bytes).toList = 'u' :: Base64Url.digits bytes := by
    simp [Base64Url.encode, String.toList_append]
  rw [← String.toList_inj, hchars, bytesOfValue?]
  constructor
  · intro h
    split at h
    · rename_i digits htext
      rw [htext, Base64Url.ofDigits?_eq_some_iff.mp h]
    · cases h
  · intro h
    rw [h]
    exact Base64Url.ofDigits?_digits bytes

theorem getD_eq_iff {found : Option String} {text : String} (h : text ≠ "") :
    found.getD "" = text ↔ found = some text := by
  cases found with
  | none => simp [h.symm]
  | some s => simp

theorem purpose_text_ne (purpose : ProofPurpose) : purpose.text ≠ "" := by
  cases purpose <;> decide

theorem string?_eq_some_iff {value : Json} {text : String} :
    value.string? = some text ↔ value = .string text := by
  cases value <;> simp [Json.string?]

theorem text?_object_eq_some_iff {members : List (String × Json)} {name text : String} :
    (Json.object members).text? name = some text ↔
      Dictionary.find? name members = some (.string text) := by
  simp [Json.text?, Json.member?, Option.bind_eq_some_iff, string?_eq_some_iff]

/-- A check accepts exactly the valid proofs, and finds the identifier of the signing key. -/
theorem check_eq_ok_iff {document : Json} {purpose : ProofPurpose} {signer : Did}
    {proof : List (String × Json)} :
    check document purpose = .ok (signer, proof) ↔
      ∃ members key, document = .object members ∧ signer = DidKey.ofPublicKey key ∧
        IsValid members proof purpose key := by
  simp only [check, bind_eq_ok_iff, ite_throw_eq_ok_iff, orFault_eq_ok_iff, mapError_eq_ok_iff,
    Prod.exists, DidKey.read_eq_ok_iff, Option.bind_eq_some_iff, members?_eq_some_iff, not_not,
    Signature.ofBytes_eq_ok_iff, bytesOfValue?_eq_some_iff, string?_eq_some_iff]
  constructor
  · rintro ⟨members, rfl, proof', ⟨-, hattached, rfl⟩, hpurpose, method, ⟨-, hmethod, rfl⟩, signer',
      key, ⟨rfl, hurl⟩, bytes, ⟨text, ⟨-, hvalue, rfl⟩, rfl⟩, signature, rfl, ⟨⟩, hverify, h⟩
    cases h
    refine ⟨members, key, rfl, rfl, hattached, ?_, ?_, signature, ?_, hverify⟩
    · exact (getD_eq_iff (purpose_text_ne purpose)).mp hpurpose
    · exact ⟨method, text?_object_eq_some_iff.mpr hmethod, hurl.symm⟩
    · exact text?_object_eq_some_iff.mpr hvalue
  · rintro ⟨members, key, rfl, rfl, hvalid⟩
    obtain ⟨method, hmethod, hurl⟩ := hvalid.names_key
    obtain ⟨signature, hvalue, hverify⟩ := hvalid.signed
    rw [text?_object_eq_some_iff] at hmethod hvalue
    exact ⟨members, rfl, proof, ⟨_, hvalid.attached, rfl⟩,
      (getD_eq_iff (purpose_text_ne purpose)).mpr hvalid.stated_purpose, method,
      ⟨_, hmethod, rfl⟩, _, key, ⟨rfl, hurl.symm⟩, _, ⟨_, ⟨_, hvalue, rfl⟩, rfl⟩, signature, rfl,
      (), hverify, rfl⟩

/-- The members of the proof that a key pair attaches. -/
def signedMembers (created : Timestamp) (members : List (String × Json)) (options : ProofOptions)
    (pair : KeyPair) : List (String × Json) :=
  Dictionary.insert "proofValue"
    (.string (valueOfSignature (pair.sign (signingInput members (unsignedMembers created options)))))
    (unsignedMembers created options)

/-- The members of a document with the proof that a key pair attaches. -/
def withProof (created : Timestamp) (members : List (String × Json)) (options : ProofOptions)
    (pair : KeyPair) : List (String × Json) :=
  Dictionary.insert "proof" (.object (signedMembers created members options pair)) members

/-- A document is signed exactly if it is an object and the address in the options leads to
the identifier of the signing key. -/
theorem sign_eq_ok_iff {created : Timestamp} {document : Json} {options : ProofOptions} {key : Jwk}
    {result : Json} :
    sign created document options key = .ok result ↔
      ∃ members pair, document = .object members ∧ key = Jwk.ofKeyPair pair ∧
        DidKey.ofUrl options.verificationMethod = (DidKey.ofPublicKey pair.publicKey).text ∧
        result = .object (withProof created members options pair) := by
  constructor
  · intro h
    rw [sign] at h
    split at h
    · rename_i members hmembers
      simp only [bind_eq_ok_iff, ite_throw_eq_ok_iff, not_not, Jwk.keyPair_eq_ok_iff] at h
      obtain ⟨members', hpure, pair, hkey, hurl, h⟩ := h
      cases hpure
      cases h
      exact ⟨members, pair, members?_eq_some_iff.mp hmembers, hkey, hurl, rfl⟩
    · cases h
  · rintro ⟨members, pair, rfl, rfl, hurl, rfl⟩
    rw [sign]
    simp only [Json.members?, bind_eq_ok_iff, ite_throw_eq_ok_iff, not_not, Jwk.keyPair_eq_ok_iff]
    exact ⟨members, rfl, pair, rfl, hurl, rfl⟩

/-- The value of a member of a proof apart from its value. -/
theorem find?_signedMembers (name : String) (created : Timestamp) (members : List (String × Json))
    (options : ProofOptions) (pair : KeyPair) (h : "proofValue" ≠ name) :
    Dictionary.find? name (signedMembers created members options pair) =
      Dictionary.find? name (unsignedMembers created options) := by
  rw [signedMembers, Dictionary.find?_insert, if_neg h]

theorem text?_unsignedMembers (created : Timestamp) (options : ProofOptions) :
    let proof := Json.object (unsignedMembers created options)
    proof.text? "proofPurpose" = some options.purpose.text ∧
      proof.text? "verificationMethod" = some options.verificationMethod ∧
      proof.text? "challenge" = options.challenge ∧ proof.text? "domain" = options.domain := by
  obtain ⟨purpose, method, challenge, domain⟩ := options
  simp only [Json.text?, Json.member?, unsignedMembers, ProofPurpose.toJson_eq,
    Dictionary.find?_ofList]
  cases challenge <;> cases domain <;> simp [Dictionary.find?_cons, Json.string?]

/-- Attaching a proof does not change what is signed. -/
theorem signingInput_withProof (created : Timestamp) (members : List (String × Json))
    (options : ProofOptions) (pair : KeyPair) :
    signingInput (withProof created members options pair)
        (signedMembers created members options pair) =
      signingInput members (unsignedMembers created options) := by
  rw [signingInput, withProof, signedMembers, Dictionary.erase_insert, Dictionary.erase_insert,
    signingInput]

/-- The proof that a key pair attaches is valid for its purpose. -/
theorem isValid_withProof (created : Timestamp) (members : List (String × Json))
    (options : ProofOptions) (pair : KeyPair)
    (h : DidKey.ofUrl options.verificationMethod = (DidKey.ofPublicKey pair.publicKey).text) :
    IsValid (withProof created members options pair)
      (signedMembers created members options pair) options.purpose pair.publicKey := by
  obtain ⟨hpurpose, hmethod, -, -⟩ := text?_unsignedMembers created options
  simp only [text?_object_eq_some_iff] at hpurpose hmethod
  constructor
  · rw [withProof, Dictionary.find?_insert, if_pos rfl]
  · rw [text?_object_eq_some_iff, find?_signedMembers _ _ _ _ _ (by decide), hpurpose]
  · refine ⟨options.verificationMethod, ?_, h⟩
    rw [text?_object_eq_some_iff, find?_signedMembers _ _ _ _ _ (by decide), hmethod]
  · refine ⟨pair.sign (signingInput members (unsignedMembers created options)), ?_, ?_⟩
    · rw [text?_object_eq_some_iff, signedMembers, Dictionary.find?_insert, if_pos rfl]
    · rw [signingInput_withProof]
      exact verify_sign pair _

end WalletCredentials.Proof

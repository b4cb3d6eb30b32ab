import WalletCredentials.Proofs.DidDocument
import WalletCredentials.Proofs.Proof.Agreement

/-!
# The address of a key

A proof names its key by an address. Signing and checking look at the identifier in it alone, and
anything may stand behind its number sign. In the document of the identifier the address is looked
up as a whole. So every address under the identifier of a key will do for a proof, and only one of
them leads to the entry with the key.
-/

namespace WalletCredentials

open Ed25519

/-- A text that is cut consists of its parts and of the mark between them. -/
theorem Text.eq_of_cut {mark : Char} {cs a : List Char} {b : Option (List Char)}
    (h : cut mark cs = (a, b)) : cs = a ++ b.elim [] (mark :: ·) := by
  induction cs generalizing a with
  | nil =>
      cases h
      rfl
  | cons c cs ih =>
      rw [cut] at h
      split at h
      · rename_i hmark
        cases h
        rw [hmark]
        rfl
      · cases h
        exact congrArg (c :: ·) (ih rfl)

namespace DidKey

variable {url : String} {key : PublicKey}

/-- What an address that names a key leads to. -/
structure IsAddressOf (url : String) (key : PublicKey) : Prop where
  under : url = (ofPublicKey key).text ∨ ∃ fragment, url = (ofPublicKey key).text ++ "#" ++ fragment
  to_entry_iff : (∃ entry, dereference url = .ok entry ∧
      publishedKey? entry = some (Record.toJson (Jwk.ofPublicKey key))) ↔
    url = (ofPublicKey key).verificationMethod
  /-- The identifier alone leads to the document, which is no entry and publishes no key itself. -/
  to_document : url = (ofPublicKey key).text →
    dereference url = .ok (document (ofPublicKey key) key)
  to_nothing : url ≠ (ofPublicKey key).text → url ≠ (ofPublicKey key).verificationMethod →
    dereference url = .error (.notFound url)

theorem publishedKey?_document (did : Did) (key : PublicKey) :
    publishedKey? (document did key) = none := by
  simp only [publishedKey?, document, Json.ofMembers, Json.member?, Dictionary.find?_ofList]
  rfl

theorem text_ne_verificationMethod (key : PublicKey) :
    (ofPublicKey key).text ≠ (ofPublicKey key).verificationMethod := by
  intro h
  apply hash_notMem_text key
  rw [h, Did.verificationMethod]
  simp [String.toList_append]

/-- An address names a key if it is the identifier of the key, or stands under it. -/
theorem ofUrl_eq_iff : ofUrl url = (ofPublicKey key).text ↔
    url = (ofPublicKey key).text ∨ ∃ fragment, url = (ofPublicKey key).text ++ "#" ++ fragment := by
  constructor
  · intro h
    obtain ⟨b, hcut⟩ : ∃ b, Text.cut '#' url.toList = ((ofPublicKey key).text.toList, b) := by
      rw [← h, ofUrl, String.toList_ofList]
      exact ⟨_, rfl⟩
    have hurl := Text.eq_of_cut hcut
    cases b with
    | none =>
        rw [Option.elim_none, List.append_nil] at hurl
        exact .inl (String.toList_inj.mp hurl)
    | some fragment =>
        refine .inr ⟨String.ofList fragment, String.toList_inj.mp ?_⟩
        rw [hurl]
        simp [String.toList_append]
  · rintro (rfl | ⟨fragment, rfl⟩)
    · rw [ofUrl, Text.cut_of_notMem (hash_notMem_text key), String.ofList_toList]
    · exact ofUrl_address key fragment

/-- Signing and checking take an address for that of a key under this condition. -/
theorem isAddressOf_iff : IsAddressOf url key ↔ ofUrl url = (ofPublicKey key).text := by
  refine ⟨fun h => ofUrl_eq_iff.mpr h.under, fun h => ?_⟩
  rcases ofUrl_eq_iff.mp h with rfl | ⟨fragment, rfl⟩
  · constructor
    case under => exact .inl rfl
    case to_entry_iff =>
      refine iff_of_false ?_ (text_ne_verificationMethod key)
      rintro ⟨entry, hentry, hpublished⟩
      rw [dereference_text, Except.ok.injEq] at hentry
      rw [← hentry, publishedKey?_document] at hpublished
      cases hpublished
    case to_document => exact fun _ => dereference_text key
    case to_nothing => exact fun hne => absurd rfl hne
  · have hfound := dereference_fragment key fragment
    constructor
    case under => exact .inr ⟨fragment, rfl⟩
    case to_entry_iff =>
      constructor
      · rintro ⟨entry, hentry, -⟩
        by_contra hne
        rw [hfound, if_neg (Ne.symm hne)] at hentry
        cases hentry
      · intro heq
        exact ⟨_, hfound.trans (if_pos heq.symm), publishedKey?_methodEntry _ _⟩
    case to_document =>
      intro htext
      rw [htext]
      exact dereference_text key
    case to_nothing => exact fun _ hne => hfound.trans (if_neg hne.symm)

end DidKey

namespace Proof

variable {document : Json} {purpose : ProofPurpose} {signer : Did}

/-- Tells that a document is accepted as the work of a signer, or was signed by it. -/
inductive IsProvedBy (document : Json) : ProofPurpose → Did → Prop
  | accepted {purpose : ProofPurpose} {signer : Did} {proof : List (String × Json)} :
      check document purpose = .ok (signer, proof) → IsProvedBy document purpose signer
  | signed {created : Timestamp} {unsigned : Json} {options : ProofOptions} {key : Jwk}
      {signer : Did} : sign created unsigned options key = .ok document →
      DidKey.ofJwk DidKey.methodName key = .ok signer → IsProvedBy document options.purpose signer

/-- Tells that a key pair signs every object under an address, and that what it signs is accepted
under that address. -/
def SignsUnder (pair : KeyPair) (url : String) : Prop :=
  ∀ created members purpose challenge domain, ∃ result proof,
    sign created (.object members) ⟨purpose, url, challenge, domain⟩ (.ofKeyPair pair) =
        .ok result ∧
      check result purpose = .ok (DidKey.ofPublicKey pair.publicKey, proof) ∧
      (Json.object proof).text? "verificationMethod" = some url

theorem signsUnder_of_isAddressOf {pair : KeyPair} {url : String}
    (h : DidKey.IsAddressOf url pair.publicKey) : SignsUnder pair url := by
  intro created members purpose challenge domain
  have hurl := DidKey.isAddressOf_iff.mp h
  have hsigned : IsSignedFor ⟨purpose, url, challenge, domain⟩ (DidKey.ofPublicKey pair.publicKey)
      members (withProof created members ⟨purpose, url, challenge, domain⟩ pair)
      (signedMembers created members ⟨purpose, url, challenge, domain⟩ pair) :=
    isSignedFor_withProof hurl
  exact ⟨_, _, sign_eq_ok_iff.mpr ⟨members, pair, rfl, rfl, hurl, rfl⟩, hsigned.accepted,
    hsigned.states_options.1⟩

/-- What was signed is accepted as well. -/
theorem IsProvedBy.exists_check (h : IsProvedBy document purpose signer) :
    ∃ proof, check document purpose = .ok (signer, proof) := by
  cases h with
  | accepted hcheck => exact ⟨_, hcheck⟩
  | @signed created unsigned options key signer hsign hsigner =>
      obtain ⟨members, pair, -, rfl, hurl, rfl⟩ := sign_eq_ok_iff.mp hsign
      obtain ⟨found, hpublic, rfl⟩ := DidKey.ofJwk_eq_ok_iff.mp hsigner
      rw [Jwk.eq_publicKey rfl (Jwk.publicKey_eq_ok_iff.mpr (congrArg Jwk.x hpublic))]
      exact ⟨_, (isSignedFor_withProof hurl).accepted⟩

/-- Every proof that is accepted, and every one that is made, names its key by an address of the
key, and any other address of the key would have done. The address leads to an entry with the key in
the one case that it is the address of the verification method, to the whole document if it is the
identifier alone, and to nothing otherwise. -/
theorem isAddressOf_of_isProvedBy (h : IsProvedBy document purpose signer) :
    ∃ members proof key method, document = .object members ∧ signer = DidKey.ofPublicKey key ∧
      IsValid members proof purpose key ∧
      (Json.object proof).text? "verificationMethod" = some method ∧
      DidKey.IsAddressOf method key ∧
      ∀ (pair : KeyPair) (url : String), key = pair.publicKey → DidKey.IsAddressOf url key →
        SignsUnder pair url := by
  obtain ⟨proof, hcheck⟩ := h.exists_check
  obtain ⟨members, key, hdocument, hsigner, hvalid⟩ := check_eq_ok_iff.mp hcheck
  obtain ⟨method, hmethod, hurl⟩ := hvalid.names_key
  refine ⟨members, proof, key, method, hdocument, hsigner, hvalid, hmethod,
    DidKey.isAddressOf_iff.mpr hurl, ?_⟩
  rintro pair url rfl haddress
  exact signsUnder_of_isAddressOf haddress

/-- A key that has signed a document under its address signs, and is accepted, under an address that
leads to nothing. -/
theorem signsUnder_other_address :
    let pair : KeyPair := ⟨List.replicate 32 7, rfl⟩
    let url := (DidKey.ofPublicKey pair.publicKey).text ++ "#" ++ "keys:1"
    (∃ document, IsProvedBy document .assertion (DidKey.ofPublicKey pair.publicKey)) ∧
      SignsUnder pair url ∧ DidKey.dereference url = .error (.notFound url) := by
  intro pair url
  have hurl : DidKey.IsAddressOf url pair.publicKey :=
    DidKey.isAddressOf_iff.mpr (DidKey.ofUrl_eq_iff.mpr (.inr ⟨"keys:1", rfl⟩))
  have hmethod : DidKey.IsAddressOf (DidKey.ofPublicKey pair.publicKey).verificationMethod
      pair.publicKey :=
    DidKey.isAddressOf_iff.mpr (DidKey.ofUrl_verificationMethod pair.publicKey)
  obtain ⟨document, proof, -, hcheck, -⟩ := signsUnder_of_isAddressOf hmethod
    ⟨0, false, by decide, by decide⟩ [("id", .string "card")] .assertion none none
  have hproved : IsProvedBy document .assertion (DidKey.ofPublicKey pair.publicKey) :=
    .accepted hcheck
  obtain ⟨-, -, key, -, -, hsigner, -, -, -, hany⟩ := isAddressOf_of_isProvedBy hproved
  have hkey := DidKey.ofPublicKey_injective hsigner
  subst hkey
  refine ⟨⟨document, hproved⟩, hany pair url rfl hurl, hurl.to_nothing ?_ ?_⟩
  · intro heq
    apply DidKey.hash_notMem_text pair.publicKey
    rw [← heq]
    simp [url, String.toList_append]
  · intro heq
    apply Did.colon_notMem_fragment (DidKey.ofPublicKey pair.publicKey)
    rw [← (String.append_right_inj _).mp heq]
    decide

end Proof

end WalletCredentials

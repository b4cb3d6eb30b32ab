import WalletCredentials.Proofs.Dictionary
import WalletCredentials.Proofs.DidKey
import WalletCredentials.Proofs.Jwk

/-!
# Documents of identifiers

An identifier resolves to a document exactly if it is the one of a public key, and the document
then publishes that key. No second spelling of an identifier resolves, so that the identifiers that
resolve and the public keys correspond one to one. An address names the document, its only entry or
nothing.
-/

namespace WalletCredentials.DidKey

open Ed25519

/-- The entry of a document for its verification method, if it has just one. -/
def method? (document : Json) : Option Json :=
  match document.member? "verificationMethod" with
  | some (.array [entry]) => some entry
  | _ => none

/-- The key that an entry publishes. -/
def publishedKey? (entry : Json) : Option Json := entry.member? "publicKeyJwk"

/-- The bytes of the public key that a document publishes. -/
def publishedBytes? (document : Json) : Option (List UInt8) :=
  (((method? document).bind publishedKey?).bind (Json.text? "x")).bind Base64Url.decode?

section Documents

variable (did : Did) (key : PublicKey)

theorem text?_id_document : (document did key).text? "id" = some did.text := by
  simp only [document, Json.ofMembers, Json.text?, Json.member?, Dictionary.find?_ofList]
  rfl

theorem method?_document : method? (document did key) = some (methodEntry did key) := by
  simp only [method?, document, Json.ofMembers, Json.member?, Dictionary.find?_ofList]
  rfl

theorem publishedKey?_methodEntry :
    publishedKey? (methodEntry did key) = some (Record.toJson (Jwk.ofPublicKey key)) := by
  simp only [publishedKey?, methodEntry, Json.ofMembers, Json.member?, Dictionary.find?_ofList]
  rfl

/-- A key that is published states its bytes. -/
theorem text?_toJson_ofPublicKey :
    (Record.toJson (Jwk.ofPublicKey key)).text? "x" = some (Base64Url.encode key.bytes) := by
  have hjson : Record.toJson (Jwk.ofPublicKey key) = .ofMembers [("kty", .string "OKP"),
      ("crv", .string "Ed25519"), ("x", .string (Base64Url.encode key.bytes))] := rfl
  rw [hjson]
  simp only [Json.ofMembers, Json.text?, Json.member?, Dictionary.find?_ofList]
  rfl

theorem publishedBytes?_document : publishedBytes? (document did key) = some key.bytes := by
  rw [publishedBytes?, method?_document, Option.bind_some, publishedKey?_methodEntry,
    Option.bind_some, text?_toJson_ofPublicKey, Option.bind_some]
  exact Base64Url.decode?_encode key.bytes

end Documents

/-- A text resolves exactly if it is the identifier of a key, to the document of that key. -/
theorem resolve_eq_ok_iff {text : String} {found : Json} :
    resolve text = .ok found ↔
      ∃ key, (ofPublicKey key).text = text ∧ found = document (ofPublicKey key) key := by
  rw [resolve]
  constructor
  · intro h
    cases hread : read text with
    | error fault =>
        rw [hread] at h
        cases h
    | ok result =>
        obtain ⟨did, key⟩ := result
        obtain ⟨rfl, htext⟩ := read_eq_ok_iff.mp hread
        rw [hread] at h
        cases h
        exact ⟨key, htext, rfl⟩
  · rintro ⟨key, htext, rfl⟩
    rw [read_eq_ok_iff.mpr ⟨rfl, htext⟩]
    rfl

theorem ofJwk_eq_ok_iff {jwk : Jwk} {did : Did} :
    ofJwk methodName jwk = .ok did ↔
      ∃ key, jwk.toPublic = Jwk.ofPublicKey key ∧ did = ofPublicKey key := by
  have hpublic (key : PublicKey) :
      jwk.toPublic = Jwk.ofPublicKey key ↔ jwk.publicKey = .ok key := by
    rw [Jwk.publicKey_eq_ok_iff, Jwk.toPublic, Jwk.ofPublicKey, Jwk.mk.injEq]
    exact and_iff_left rfl
  simp only [hpublic]
  rw [ofJwk, ite_throw_eq_ok_iff, bind_eq_ok_iff]
  simp only [pure_eq_ok_iff]
  exact and_iff_right fun h => h rfl

theorem ofPublicKey_text_injective {a b : PublicKey}
    (h : (ofPublicKey a).text = (ofPublicKey b).text) : a = b :=
  ofPublicKey_injective (Did.text_injective h)

section Resolution

variable {text text' : String} {found found' : Json}

theorem exists_resolve_iff :
    (∃ found, resolve text = .ok found) ↔ ∃ key, text = (ofPublicKey key).text := by
  simp only [resolve_eq_ok_iff]
  constructor
  · rintro ⟨-, key, htext, -⟩
    exact ⟨key, htext.symm⟩
  · rintro ⟨key, htext⟩
    exact ⟨_, key, htext.symm, rfl⟩

theorem text?_id_of_resolve (h : resolve text = .ok found) : found.text? "id" = some text := by
  obtain ⟨key, rfl, rfl⟩ := resolve_eq_ok_iff.mp h
  exact text?_id_document _ _

/-- A text that resolves is the identifier of one key only. -/
theorem existsUnique_of_resolve (h : resolve text = .ok found) :
    ∃! key, text = (ofPublicKey key).text := by
  obtain ⟨key, rfl, -⟩ := resolve_eq_ok_iff.mp h
  refine ⟨key, rfl, ?_⟩
  intro key' htext
  exact (ofPublicKey_text_injective htext).symm

theorem publishedBytes?_of_resolve {key : PublicKey}
    (h : resolve (ofPublicKey key).text = .ok found) : publishedBytes? found = some key.bytes := by
  obtain ⟨key', htext, rfl⟩ := resolve_eq_ok_iff.mp h
  rw [ofPublicKey_text_injective htext]
  exact publishedBytes?_document _ _

/-- Two texts that resolve to documents with the same key are the same. -/
theorem eq_of_publishedBytes?_eq (h : resolve text = .ok found) (h' : resolve text' = .ok found')
    (hbytes : publishedBytes? found = publishedBytes? found') : text = text' := by
  obtain ⟨key, rfl, rfl⟩ := resolve_eq_ok_iff.mp h
  obtain ⟨key', rfl, rfl⟩ := resolve_eq_ok_iff.mp h'
  rw [publishedBytes?_document, publishedBytes?_document, Option.some.injEq] at hbytes
  have hkey : key = key' := by
    cases key
    cases key'
    exact (PublicKey.mk.injEq ..).mpr hbytes
  rw [hkey]

end Resolution

section Addresses

variable (key : PublicKey)

theorem read_text_ofPublicKey : read (ofPublicKey key).text = .ok (ofPublicKey key, key) :=
  read_eq_ok_iff.mpr ⟨rfl, rfl⟩

/-- The identifier of a key names the document as an address too. -/
theorem dereference_text :
    dereference (ofPublicKey key).text = .ok (document (ofPublicKey key) key) := by
  have hcut := Text.cut_of_notMem (hash_notMem_text key)
  rw [dereference, ofUrl, hcut, String.ofList_toList, read_text_ofPublicKey]
  rfl

/-- Of the addresses in a document, that of the verification method is the only one with an
entry. -/
theorem dereference_fragment (fragment : String) :
    let url := (ofPublicKey key).text ++ "#" ++ fragment
    dereference url = if (ofPublicKey key).verificationMethod = url
      then .ok (methodEntry (ofPublicKey key) key) else .error (.notFound url) := by
  intro url
  rw [dereference, ofUrl_address, cut_address, read_text_ofPublicKey]
  rfl

end Addresses

/-- What the identifier of a key and the addresses under it lead to. -/
structure LeadsTo (did : Did) (jwk : Jwk) (found entry : Json) : Prop where
  resolves : resolve did.text = .ok found
  holds_entry : method? found = some entry
  publishes : publishedKey? entry = some (Record.toJson jwk.toPublic)
  to_document : dereference did.text = .ok found
  to_entry : dereference did.verificationMethod = .ok entry
  to_nothing_else : ∀ fragment, did.text ++ "#" ++ fragment ≠ did.verificationMethod →
    dereference (did.text ++ "#" ++ fragment) = .error (.notFound (did.text ++ "#" ++ fragment))

theorem leadsTo_document {jwk : Jwk} {key : PublicKey} (h : jwk.toPublic = Jwk.ofPublicKey key) :
    LeadsTo (ofPublicKey key) jwk (document (ofPublicKey key) key)
      (methodEntry (ofPublicKey key) key) := by
  constructor
  · exact resolve_eq_ok_iff.mpr ⟨key, rfl, rfl⟩
  · exact method?_document _ _
  · rw [h]
    exact publishedKey?_methodEntry _ _
  · exact dereference_text key
  · rw [Did.verificationMethod, dereference_fragment]
    exact if_pos rfl
  · intro fragment hfragment
    rw [dereference_fragment]
    exact if_neg hfragment.symm

/-- The identifiers that resolve and the public keys correspond one to one: a text resolves exactly
if it is the identifier of a public key, which is then the only one and the one that the document
publishes, and no two such texts publish the same key. The identifier of a key leads to a document
with the public half of the key, the address of its verification method to the entry for it, and no
other address in the document to anything. -/
theorem resolve_one_to_one :
    (∀ text, (∃ found, resolve text = .ok found) ↔ ∃ key, text = (ofPublicKey key).text) ∧
    (∀ text found, resolve text = .ok found →
      found.text? "id" = some text ∧ (∃! key, text = (ofPublicKey key).text) ∧
      ∀ key, text = (ofPublicKey key).text → publishedBytes? found = some key.bytes) ∧
    (∀ text text' found found', resolve text = .ok found → resolve text' = .ok found' →
      publishedBytes? found = publishedBytes? found' → text = text') ∧
    ∀ jwk did, ofJwk methodName jwk = .ok did → ∃ found entry, LeadsTo did jwk found entry := by
  refine ⟨fun text => exists_resolve_iff, ?unique, ?distinct, ?leads⟩
  case unique =>
    intro text found h
    refine ⟨text?_id_of_resolve h, existsUnique_of_resolve h, ?_⟩
    rintro key rfl
    exact publishedBytes?_of_resolve h
  case distinct =>
    intro text text' found found'
    exact eq_of_publishedBytes?_eq
  case leads =>
    intro jwk did h
    obtain ⟨key, hpublic, rfl⟩ := ofJwk_eq_ok_iff.mp h
    exact ⟨_, _, leadsTo_document hpublic⟩

/-- The private key of a pair leads to a document that publishes the public half alone. -/
theorem leadsTo_of_private_key :
    let pair : KeyPair := ⟨List.replicate 32 7, rfl⟩
    (Jwk.ofKeyPair pair).isPrivate ∧ ∃ found entry,
      LeadsTo (ofPublicKey pair.publicKey) (.ofKeyPair pair) found entry ∧
      publishedKey? entry = some (Record.toJson (Jwk.ofPublicKey pair.publicKey)) := by
  intro pair
  have hdid : ofJwk methodName (.ofKeyPair pair) = .ok (ofPublicKey pair.publicKey) :=
    ofJwk_eq_ok_iff.mpr ⟨pair.publicKey, rfl, rfl⟩
  obtain ⟨found, entry, hleads⟩ := resolve_one_to_one.2.2.2 _ _ hdid
  exact ⟨rfl, found, entry, hleads, hleads.publishes⟩

end WalletCredentials.DidKey

import WalletCredentials.DidKey
import WalletCredentials.Proofs.Did
import WalletCredentials.Proofs.Encoding.Base58
import WalletCredentials.Proofs.Encoding.Base64Url
import WalletCredentials.Proofs.Result

/-!
# Keys and their identifiers

The identifier of a public key names that key, and every identifier that names a key is the
one of that key. The text of such an identifier holds no number sign, so that the address of
its verification method leads back to it.
-/

namespace WalletCredentials

namespace DidKey

open Ed25519

theorem publicKey_ofPublicKey (key : PublicKey) : publicKey (ofPublicKey key) = .ok key := by
  have hchars : (ofPublicKey key).identifier.toList =
      'z' :: (Base58.encode (multicodec ++ key.bytes)).toList := by
    simp [ofPublicKey, String.toList_append]
  rw [publicKey, if_neg (by simp [ofPublicKey]), hchars]
  simp only [String.ofList_toList, Base58.decode_encode, multicodec, List.cons_append,
    List.nil_append]
  rw [PublicKey.ofBytes_eq_ok_iff.mpr rfl, mapError_ok]

/-- An identifier names a key exactly if it is the identifier of that key. -/
theorem publicKey_eq_ok_iff {did : Did} {key : PublicKey} :
    publicKey did = .ok key ↔ did = ofPublicKey key := by
  constructor
  · intro h
    rw [publicKey] at h
    split at h
    · cases h
    rename_i hmethod
    split at h
    · rename_i digits hchars
      split at h
      · cases h
      · rename_i bytes hdecode
        rw [mapError_eq_ok_iff, PublicKey.ofBytes_eq_ok_iff] at h
        apply Did.text_injective
        have hencode := Base58.encode_of_decode hdecode
        have hidentifier : did.identifier = "z" ++ String.ofList digits := by
          apply String.toList_inj.mp
          simp [hchars, String.toList_append]
        rw [Did.text, hidentifier, not_not.mp hmethod, ← hencode, ← h]
        rfl
      · cases h
    · cases h
  · rintro rfl
    exact publicKey_ofPublicKey key

theorem read_eq_ok_iff {text : String} {did : Did} {key : PublicKey} :
    read text = .ok (did, key) ↔ did = ofPublicKey key ∧ did.text = text := by
  rw [read, bind_eq_ok_iff]
  constructor
  · rintro ⟨did', hread, h⟩
    obtain ⟨key', hkey, h⟩ := bind_eq_ok_iff.mp h
    cases h
    rw [mapError_eq_ok_iff, Did.read_eq_ok_iff] at hread
    exact ⟨publicKey_eq_ok_iff.mp hkey, hread⟩
  · rintro ⟨rfl, rfl⟩
    refine ⟨ofPublicKey key, ?_, ?_⟩
    · rw [Did.read_text, mapError_ok]
    · rw [publicKey_ofPublicKey, ok_bind]
      rfl

theorem ofPublicKey_injective {a b : PublicKey} (h : ofPublicKey a = ofPublicKey b) : a = b := by
  have ha := publicKey_ofPublicKey a
  rw [h, publicKey_ofPublicKey, Except.ok.injEq] at ha
  exact ha.symm

theorem hash_notMem_text (key : PublicKey) : '#' ∉ (ofPublicKey key).text.toList := by
  have hdigits := Base58.notMem_encode (c := '#') (by decide) (multicodec ++ key.bytes)
  simpa [Did.toList_text, ofPublicKey, methodName, String.toList_append] using hdigits

theorem colon_notMem_identifier (key : PublicKey) :
    ':' ∉ (ofPublicKey key).identifier.toList := by
  have hdigits := Base58.notMem_encode (c := ':') (by decide) (multicodec ++ key.bytes)
  simpa [ofPublicKey, String.toList_append] using hdigits

/-- An address under the identifier of a key is cut at the mark in front of its fragment, whatever
marks stand in that. -/
theorem cut_address (key : PublicKey) (fragment : String) :
    Text.cut '#' ((ofPublicKey key).text ++ "#" ++ fragment).toList =
      ((ofPublicKey key).text.toList, some fragment.toList) := by
  have hchars : ((ofPublicKey key).text ++ "#" ++ fragment).toList =
      (ofPublicKey key).text.toList ++ '#' :: fragment.toList := by
    simp [String.toList_append]
  rw [hchars]
  exact Text.cut_append _ (hash_notMem_text key)

theorem ofUrl_address (key : PublicKey) (fragment : String) :
    ofUrl ((ofPublicKey key).text ++ "#" ++ fragment) = (ofPublicKey key).text := by
  rw [ofUrl, cut_address, String.ofList_toList]

/-- The address of the verification method of a key leads to the identifier of the key. -/
theorem ofUrl_verificationMethod (key : PublicKey) :
    ofUrl (ofPublicKey key).verificationMethod = (ofPublicKey key).text :=
  ofUrl_address key _

end DidKey

end WalletCredentials

import WalletCredentials.Jwk
import WalletCredentials.Proofs.Encoding.Base64Url
import WalletCredentials.Proofs.Result

/-!
# Keys as they are exchanged

A private key that can be used is the one of its key pair, to the letter.
-/

namespace WalletCredentials.Jwk

open Ed25519

theorem partBytes_eq_ok_iff {name text : String} {bytes : List UInt8} :
    partBytes name text = .ok bytes ↔ text = Base64Url.encode bytes := by
  rw [partBytes, ← Base64Url.decode?_eq_some_iff]
  cases Base64Url.decode? text with
  | none => simp
  | some bytes' => simp

theorem publicKey_eq_ok_iff {key : Jwk} {k : PublicKey} :
    key.publicKey = .ok k ↔ key.x = Base64Url.encode k.bytes := by
  simp only [publicKey, bind_eq_ok_iff, mapError_eq_ok_iff, partBytes_eq_ok_iff,
    PublicKey.ofBytes_eq_ok_iff]
  constructor
  · rintro ⟨_, h, rfl⟩
    exact h
  · intro h
    exact ⟨k.bytes, h, rfl⟩

theorem publicKey_ofKeyPair (pair : KeyPair) : (ofKeyPair pair).publicKey = .ok pair.publicKey :=
  publicKey_eq_ok_iff.mpr rfl

/-- The private key of a key pair has the public key of the pair and no other. -/
theorem eq_publicKey {key : Jwk} {pair : KeyPair} {k : PublicKey} (hkey : key = ofKeyPair pair)
    (h : key.publicKey = .ok k) : k = pair.publicKey := by
  rw [hkey, publicKey_ofKeyPair, Except.ok.injEq] at h
  exact h.symm

/-- A key stands for a key pair exactly if it is the private key of that pair. -/
theorem keyPair_eq_ok_iff {key : Jwk} {pair : KeyPair} :
    key.keyPair = .ok pair ↔ key = ofKeyPair pair := by
  obtain ⟨x, d⟩ := key
  rw [keyPair]
  constructor
  · intro h
    cases d with
    | none => cases h
    | some d =>
        obtain ⟨seed, hseed, h⟩ := bind_eq_ok_iff.mp h
        obtain ⟨pair', hpair, h⟩ := bind_eq_ok_iff.mp h
        obtain ⟨k, hk, h⟩ := bind_eq_ok_iff.mp h
        rw [partBytes_eq_ok_iff] at hseed
        rw [mapError_eq_ok_iff, KeyPair.ofSeed_eq_ok_iff] at hpair
        rw [publicKey_eq_ok_iff] at hk
        split at h
        · rename_i heq
          cases h
          rw [ofKeyPair, heq, ← hk, hpair, ← hseed]
        · cases h
  · intro h
    have hx := publicKey_ofKeyPair pair
    rw [← h] at hx
    have hd : d = some (Base64Url.encode pair.seed) := congrArg Jwk.d h
    have hseed : partBytes "d" (Base64Url.encode pair.seed) = .ok pair.seed :=
      partBytes_eq_ok_iff.mpr rfl
    simp only [hd] at hx ⊢
    rw [hseed, ok_bind, KeyPair.ofSeed_eq_ok_iff.mpr rfl, mapError_ok, ok_bind, hx, ok_bind,
      if_pos rfl]
    rfl

/-- Tells that the two parts of a key are read as the seed and the public key of a key pair. -/
structure StandsFor (key : Jwk) (pair : KeyPair) : Prop where
  seed : key.d.bind Base64Url.decode? = some pair.seed
  publicKey : Base64Url.decode? key.x = some pair.publicKey.bytes

/-- Only the private key of a key pair stands for the pair. -/
theorem standsFor_iff {key : Jwk} {pair : KeyPair} : key.StandsFor pair ↔ key = ofKeyPair pair := by
  obtain ⟨x, d⟩ := key
  constructor
  · intro h
    obtain ⟨d', hd, hseed⟩ := Option.bind_eq_some_iff.mp h.seed
    have hx := Base64Url.decode?_eq_some_iff.mp h.publicKey
    rw [Base64Url.decode?_eq_some_iff] at hseed
    simp only at hd hx
    rw [hd, hx, hseed, ofKeyPair]
  · intro h
    rw [h]
    exact ⟨Base64Url.decode?_encode _, Base64Url.decode?_encode _⟩

@[simp] theorem keyPair_ofKeyPair (pair : KeyPair) : (ofKeyPair pair).keyPair = .ok pair :=
  keyPair_eq_ok_iff.mpr rfl

end WalletCredentials.Jwk

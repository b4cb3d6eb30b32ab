import WalletCredentials.Crypto.Ed25519
import WalletCredentials.Proofs.Crypto.Decompression
import WalletCredentials.Proofs.Result

/-!
# Signatures of key pairs

A signature that a key pair makes is accepted under its public key, for every message.
The point of the verifier's equation is a sum of multiples of the base point, and the
multiples of the key cancel.
-/

namespace WalletCredentials.Ed25519

open Edwards

theorem order_pos : 0 < order := by norm_num [order]

theorem scalar_lt (bytes : List UInt8) : scalar bytes < order :=
  Nat.mod_lt _ order_pos

theorem order_lt : order < 2 ^ 256 := by norm_num [order]

theorem secret_lt (pair : KeyPair) : pair.secret < 2 ^ 256 := by
  have hpow : Nat.pow 2 254 + Nat.pow 2 254 < 2 ^ 256 := by norm_num
  have hpos : 0 < Nat.pow 2 254 := by norm_num
  simp only [KeyPair.secret]
  generalize Nat.pow 2 254 = half at hpow hpos ⊢
  generalize Bytes.toNatLittle (pair.expanded.take 32) = n
  have hlow := Nat.mod_lt n hpos
  omega

/-- The point of the public key of a key pair. -/
def KeyPair.keyPoint (pair : KeyPair) : CurvePoint := pair.secret • CurvePoint.base

theorem publicKey_bytes (pair : KeyPair) : pair.publicKey.bytes = pair.keyPoint.bytes := by
  have h := (Point.Represents.base.times (secret_lt pair)).encode_eq
  rw [KeyPair.publicKey, KeyPair.keyPoint, ← h]

theorem point_publicKey (pair : KeyPair) :
    ∃ p, pair.publicKey.point = .ok p ∧ p.Represents pair.keyPoint := by
  obtain ⟨p, hp, hrep⟩ := Point.decode?_bytes pair.keyPoint
  refine ⟨p, ?_, hrep⟩
  rw [PublicKey.point, publicKey_bytes, hp]
  rfl

/-- The point of the verifier's equation is the multiple of the base point that the signer
chose. -/
theorem equation_point (pair : KeyPair) (nonce k : Nat) :
    ((nonce + k * pair.secret) % order) • CurvePoint.base + -(k • pair.keyPoint) =
      nonce • CurvePoint.base := by
  rw [mod_order_smul_base, add_nsmul, mul_nsmul', KeyPair.keyPoint, add_neg_cancel_right]

/-- The number that a signer chooses for a message. -/
def KeyPair.nonce (pair : KeyPair) (message : List UInt8) : Nat :=
  scalar (Sha2.digest Sha2.sha512 (pair.expanded.drop 32 ++ message))

theorem nonce_lt (pair : KeyPair) (message : List UInt8) : pair.nonce message < 2 ^ 256 :=
  (scalar_lt _).trans order_lt

theorem take_sign (pair : KeyPair) (message : List UInt8) :
    (pair.sign message).bytes.take 32 = (Point.base.times (pair.nonce message)).encode := by
  rw [KeyPair.sign]
  exact List.take_left' (Point.length_encode _)

theorem drop_sign (pair : KeyPair) (message : List UInt8) :
    Bytes.toNatLittle ((pair.sign message).bytes.drop 32) =
      (pair.nonce message + challenge ((pair.sign message).bytes.take 32) pair.publicKey.bytes
        message * pair.secret) % order := by
  rw [take_sign, KeyPair.sign]
  dsimp only
  rw [List.drop_left' (Point.length_encode _), toNatLittle_ofNatLittle]
  have horder : order < 256 ^ 32 := by norm_num [order]
  exact Nat.mod_eq_of_lt ((Nat.mod_lt _ order_pos).trans horder)

theorem verifyAt_sign {p : Point} (pair : KeyPair) (message : List UInt8)
    (hp : p.Represents pair.keyPoint) :
    verifyAt p message (pair.sign message) pair.publicKey = .ok () := by
  simp only [verifyAt]
  rw [drop_sign, if_neg (Nat.not_le.mpr (Nat.mod_lt _ order_pos))]
  generalize hk : challenge ((pair.sign message).bytes.take 32) pair.publicKey.bytes message = k
  have hk_lt : k < 2 ^ 256 := hk ▸ (scalar_lt _).trans order_lt
  have hfirst := (Point.Represents.base.times (nonce_lt pair message)).encode_eq
  have hsum := (Point.Represents.base.times
    ((Nat.mod_lt (pair.nonce message + k * pair.secret) order_pos).trans order_lt)).sum
    (hp.times hk_lt).neg
  rw [equation_point] at hsum
  rw [if_pos]
  rw [hsum.encode_eq, take_sign]
  exact hfirst.symm

/-- A signature of a key pair is accepted under its public key. -/
theorem verify_sign (pair : KeyPair) (message : List UInt8) :
    verify message (pair.sign message) pair.publicKey = .ok () := by
  obtain ⟨p, hp, hrep⟩ := point_publicKey pair
  rw [verify, hp, mapError_ok, ok_bind, verifyAt_sign pair message hrep]

end WalletCredentials.Ed25519

import WalletCredentials.Proofs.Crypto.GroupOrder
import WalletCredentials.Proofs.Crypto.Signature

/-!
# What a signature binds

A signature that is accepted for one message is accepted for another one exactly if the key has
the same multiple by the challenges of both. How much that says depends on the order of the key's
point: for the key of a key pair the challenges are the same, for a key of small order they agree
modulo a number of at most eight.
-/

namespace WalletCredentials.Ed25519

open Edwards

/-- Tells that the bytes of a public key are read as a point of the curve. -/
def PublicKey.IsAt (key : PublicKey) (Q : CurvePoint) : Prop :=
  ∃ p, key.point = .ok p ∧ p.Represents Q

/-- The challenge that the verifier computes for a message. -/
def Signature.challengeOf (signature : Signature) (key : PublicKey) (message : List UInt8) : Nat :=
  challenge (signature.bytes.take 32) key.bytes message

/-- The scalar in the second half of a signature. -/
def Signature.second (signature : Signature) : Nat :=
  Bytes.toNatLittle (signature.bytes.drop 32)

variable {key : PublicKey} {Q Q' : CurvePoint} {signature : Signature} {message : List UInt8}

theorem challengeOf_lt : signature.challengeOf key message < order := scalar_lt _

theorem orNoPoint_eq_ok_iff {result : Option Point} {p : Point} :
    orNoPoint result = .ok p ↔ result = some p := by
  cases result with
  | none => simp [orNoPoint]
  | some p' => simp [orNoPoint]

theorem PublicKey.IsAt.unique (h : key.IsAt Q) (h' : key.IsAt Q') : Q = Q' := by
  obtain ⟨p, hp, hQ⟩ := h
  obtain ⟨p', hp', hQ'⟩ := h'
  rw [hp, Except.ok.injEq] at hp'
  subst hp'
  exact hQ.unique hQ'

theorem isAt_publicKey (pair : KeyPair) : pair.publicKey.IsAt pair.keyPoint :=
  point_publicKey pair

theorem verifyAt_eq_ok_iff {p : Point} :
    verifyAt p message signature key = .ok () ↔
      signature.second < order ∧
        ((Point.base.times signature.second).sum
          (p.times (signature.challengeOf key message)).neg).encode = signature.bytes.take 32 := by
  simp only [verifyAt, Signature.second, Signature.challengeOf]
  split
  · rename_i hsecond
    simp [hsecond]
  · rename_i hsecond
    simp only [not_le.mp hsecond, true_and]
    split
    · rename_i hfirst
      simp [hfirst]
    · rename_i hfirst
      simp [hfirst]

/-- The verifier's equation, in the group of the curve. -/
theorem verify_eq_ok_iff (h : key.IsAt Q) :
    verify message signature key = .ok () ↔
      signature.second < order ∧
        (signature.second • CurvePoint.base + -(signature.challengeOf key message • Q)).bytes =
          signature.bytes.take 32 := by
  obtain ⟨p, hp, hQ⟩ := h
  rw [verify, hp, mapError_ok, ok_bind, verifyAt_eq_ok_iff]
  apply and_congr_right
  intro hsecond
  have hbase := Point.Represents.base.times (hsecond.trans order_lt)
  have hkey := hQ.times (n := signature.challengeOf key message) (challengeOf_lt.trans order_lt)
  rw [(hbase.sum hkey.neg).encode_eq]

/-- A key that accepts a signature is read as a point of the curve. -/
theorem exists_isAt_of_verify (h : verify message signature key = .ok ()) : ∃ Q, key.IsAt Q := by
  obtain ⟨p, hp, -⟩ := bind_eq_ok_iff.mp h
  rw [mapError_eq_ok_iff] at hp
  obtain ⟨Q, hQ⟩ := Point.exists_represents_of_decode? (orNoPoint_eq_ok_iff.mp hp)
  exact ⟨Q, p, hp, hQ⟩

/-- A signature is accepted for a second message exactly if the challenges agree modulo the order
of the key's point. -/
theorem verify_iff_modEq (hQ : key.IsAt Q) (h : verify message signature key = .ok ())
    (message' : List UInt8) :
    verify message' signature key = .ok () ↔
      signature.challengeOf key message ≡ signature.challengeOf key message'
        [MOD addOrderOf Q] := by
  rw [verify_eq_ok_iff hQ] at h ⊢
  obtain ⟨hsecond, hfirst⟩ := h
  rw [and_iff_right hsecond, ← hfirst, ← nsmul_eq_nsmul_iff_modEq]
  constructor
  · intro hbytes
    have hsum := CurvePoint.bytes_injective hbytes
    exact (neg_injective (add_left_cancel hsum)).symm
  · intro hmultiple
    rw [hmultiple]

/-- The secret of a key pair is a multiple of eight that is too small to be one of the order. -/
theorem not_order_dvd_secret (pair : KeyPair) : ¬ order ∣ 8 * pair.secret := by
  have hcoprime : Nat.Coprime order 8 := by norm_num [order]
  have horder : Nat.pow 2 252 < order := by norm_num [order]
  have hpow : Nat.pow 2 254 = 8 * Nat.pow 2 251 ∧ Nat.pow 2 252 = 2 * Nat.pow 2 251 ∧
      0 < Nat.pow 2 251 := by norm_num
  simp only [KeyPair.secret]
  -- What `omega` has to know of the powers is in the facts above, so that they are made variables.
  generalize Bytes.toNatLittle (pair.expanded.take 32) = n
  have hlow : n % Nat.pow 2 254 < Nat.pow 2 254 := Nat.mod_lt _ (by omega)
  generalize n % Nat.pow 2 254 = low at hlow ⊢
  generalize Nat.pow 2 254 = top at hpow hlow ⊢
  generalize Nat.pow 2 252 = middle at hpow horder
  generalize Nat.pow 2 251 = half at hpow
  have heq : low / 8 * 8 + top = 8 * (low / 8 + half) := by omega
  rw [heq, hcoprime.dvd_mul_left, hcoprime.dvd_mul_left]
  intro h
  have hle := Nat.le_of_dvd (by omega) h
  omega

/-- The order of the point of a key pair is a multiple of the order of the base point. -/
theorem order_dvd_addOrderOf_keyPoint (pair : KeyPair) : order ∣ addOrderOf pair.keyPoint := by
  refine pair.keyPoint.addOrderOf_dvd_or.resolve_left fun h => not_order_dvd_secret pair ?_
  rw [addOrderOf_dvd_iff_nsmul_eq_zero, KeyPair.keyPoint, ← mul_nsmul'] at h
  rw [← addOrderOf_base]
  exact addOrderOf_dvd_of_nsmul_eq_zero h

/-! ## The key of the neutral point -/

theorem bytes_zero : CurvePoint.bytes 0 = Bytes.ofNatLittle 32 1 := by
  have hx : (0 : Residue).val = 0 := ZMod.val_zero
  have hy : (1 : Residue).val = 1 := ZMod.val_one modulus
  rw [CurvePoint.bytes, Affine.zero_x, Affine.zero_y, hx, hy]

/-- The public key that is read as the neutral point. -/
def PublicKey.neutral : PublicKey := ⟨Bytes.ofNatLittle 32 1, by simp⟩

/-- The signature that consists of the neutral point and of zero. -/
def Signature.neutral : Signature :=
  ⟨Bytes.ofNatLittle 32 1 ++ Bytes.ofNatLittle 32 0, by simp⟩

theorem isAt_neutral : PublicKey.neutral.IsAt 0 := by
  obtain ⟨p, hp, hzero⟩ := Point.decode?_bytes 0
  rw [bytes_zero] at hp
  exact ⟨p, orNoPoint_eq_ok_iff.mpr hp, hzero⟩

/-- One signature of the key of the neutral point is accepted for every message. -/
theorem verify_neutral (message : List UInt8) :
    verify message Signature.neutral PublicKey.neutral = .ok () := by
  rw [verify_eq_ok_iff isAt_neutral]
  have hsecond : Signature.neutral.second = 0 := by decide
  have hfirst : Signature.neutral.bytes.take 32 = Bytes.ofNatLittle 32 1 := by decide
  rw [hsecond, hfirst, nsmul_zero, zero_nsmul, neg_zero, add_zero, bytes_zero]
  exact ⟨order_pos, rfl⟩

end WalletCredentials.Ed25519

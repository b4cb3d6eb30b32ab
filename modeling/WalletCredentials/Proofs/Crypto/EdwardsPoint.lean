import WalletCredentials.Proofs.Crypto.Modulus

/-!
# Points in extended coordinates

The running code keeps a point as four natural numbers. Each of them stands for a point of
the curve's group, sums and multiples stand for sums and multiples in the group, and the
bytes of a point depend on the point alone and are read back as it.
-/

namespace WalletCredentials.Edwards

theorem modulus_pos : 0 < modulus := prime_modulus.pos

theorem mul_lt (a b : Nat) : mul a b < modulus := Nat.mod_lt _ modulus_pos

theorem sub_lt (a b : Nat) : sub a b < modulus := Nat.mod_lt _ modulus_pos

@[simp] theorem cast_mul (a b : Nat) : (mul a b : Residue) = a * b := by
  simp [mul]

@[simp] theorem cast_add (a b : Nat) : (add a b : Residue) = a + b := by
  simp [add]

theorem cast_sub {a b : Nat} (h : b ≤ modulus) : (sub a b : Residue) = a - b := by
  rw [sub, ZMod.natCast_mod, Nat.cast_sub (by omega), Nat.cast_add, ZMod.natCast_self, add_zero]

theorem cast_pow (base : Nat) {exponent : Nat} (h : exponent < 2 ^ 256) :
    (pow base exponent : Residue) = (base : Residue) ^ exponent :=
  cast_powMod modulus base h

theorem cast_inverse (a : Nat) : (inverse a : Residue) = (a : Residue)⁻¹ := by
  rw [inverse, cast_pow a (by norm_num [modulus])]
  by_cases h : (a : Residue) = 0
  · rw [h, inv_zero, zero_pow (by norm_num [modulus])]
  · apply eq_inv_of_mul_eq_one_left
    rw [← pow_succ]
    exact ZMod.pow_card_sub_one_eq_one h

/-- Field elements are equal as numbers when they are equal as residues. -/
theorem eq_of_cast_eq {a b : Nat} (ha : a < modulus) (hb : b < modulus)
    (h : (a : Residue) = b) : a = b := by
  rwa [cast_eq_cast_iff, Nat.mod_eq_of_lt ha, Nat.mod_eq_of_lt hb] at h

/-- The points of the curve. -/
abbrev CurvePoint : Type := Affine (d : Residue)

/-- A point in extended coordinates that stands for a point of the curve. -/
structure Point.Represents (p : Point) (P : CurvePoint) : Prop where
  z_ne : (p.z : Residue) ≠ 0
  x_eq : (p.x : Residue) = P.x * p.z
  y_eq : (p.y : Residue) = P.y * p.z
  t_eq : (p.t : Residue) = P.x * P.y * p.z
  x_lt : p.x < modulus
  t_lt : p.t < modulus

namespace Point.Represents

variable {p q : Point} {P Q : CurvePoint}

theorem zero : Point.zero.Represents 0 where
  z_ne := by simp [Point.zero]
  x_eq := by simp [Point.zero]
  y_eq := by simp [Point.zero]
  t_eq := by simp [Point.zero]
  x_lt := modulus_pos
  t_lt := modulus_pos

theorem neg (h : p.Represents P) : p.neg.Represents (-P) where
  z_ne := h.z_ne
  x_eq := by
    simp only [Point.neg]
    rw [cast_sub h.x_lt.le, h.x_eq, Affine.neg_x, Nat.cast_zero]
    ring
  y_eq := h.y_eq
  t_eq := by
    simp only [Point.neg]
    rw [cast_sub h.t_lt.le, h.t_eq, Affine.neg_x, Affine.neg_y, Nat.cast_zero]
    ring
  x_lt := sub_lt _ _
  t_lt := sub_lt _ _

end Point.Represents

/-- The factor by which the denominators of a sum differ from those of the group's law. -/
theorem Point.Represents.cross_eq {p q : Point} {P Q : CurvePoint} (hp : p.Represents P)
    (hq : q.Represents Q) :
    (p.t : Residue) * q.t * d = Affine.cross P Q * (p.z * q.z) := by
  rw [hp.t_eq, hq.t_eq, Affine.cross]
  ring

theorem Point.Represents.sum {p q : Point} {P Q : CurvePoint} (hp : p.Represents P)
    (hq : q.Represents Q) : (p.sum q).Represents (P + Q) := by
  have hcross := hp.cross_eq hq
  have h₁ := Affine.one_add_cross_ne P Q
  have h₂ := Affine.one_sub_cross_ne P Q
  have hz := hp.z_ne
  have hz' := hq.z_ne
  have h2 : (2 : Residue) ≠ 0 := IsComplete.two_ne (d : Residue)
  -- the four factors of the coordinates, in terms of the points of the group
  have hf : ((sub (mul (add p.y p.x) (add q.y q.x)) (mul (sub p.y p.x) (sub q.y q.x)) : Nat) :
      Residue) = 2 * (p.z * q.z) * (P.x * Q.y + P.y * Q.x) := by
    rw [cast_sub (mul_lt _ _).le, cast_mul, cast_mul, cast_sub hp.x_lt.le, cast_sub hq.x_lt.le,
      cast_add, cast_add, hp.x_eq, hp.y_eq, hq.x_eq, hq.y_eq]
    ring
  have hi : ((add (mul (add p.y p.x) (add q.y q.x)) (mul (sub p.y p.x) (sub q.y q.x)) : Nat) :
      Residue) = 2 * (p.z * q.z) * (P.y * Q.y + P.x * Q.x) := by
    rw [cast_add, cast_mul, cast_mul, cast_sub hp.x_lt.le, cast_sub hq.x_lt.le,
      cast_add, cast_add, hp.x_eq, hp.y_eq, hq.x_eq, hq.y_eq]
    ring
  have hc : ((mul (mul p.t q.t) (2 * d % modulus) : Nat) : Residue) =
      2 * (p.z * q.z) * Affine.cross P Q := by
    rw [cast_mul, cast_mul, ZMod.natCast_mod, Nat.cast_mul, Nat.cast_ofNat]
    linear_combination 2 * hcross
  have hg : ((sub (mul (mul p.z q.z) 2) (mul (mul p.t q.t) (2 * d % modulus)) : Nat) : Residue) =
      2 * (p.z * q.z) * (1 - Affine.cross P Q) := by
    rw [cast_sub (mul_lt _ _).le, hc, cast_mul, cast_mul, Nat.cast_ofNat]
    ring
  have hh : ((add (mul (mul p.z q.z) 2) (mul (mul p.t q.t) (2 * d % modulus)) : Nat) : Residue) =
      2 * (p.z * q.z) * (1 + Affine.cross P Q) := by
    rw [cast_add, hc, cast_mul, cast_mul, Nat.cast_ofNat]
    ring
  have hzz : (2 * (p.z * q.z) : Residue) ≠ 0 := mul_ne_zero h2 (mul_ne_zero hz hz')
  simp only [Point.sum]
  constructor
  · simp only [cast_mul]
    rw [hg, hh]
    exact mul_ne_zero (mul_ne_zero hzz h₂) (mul_ne_zero hzz h₁)
  · simp only [cast_mul]
    rw [hf, hg, hh, Affine.add_x]
    field_simp
  · simp only [cast_mul]
    rw [hi, hg, hh, Affine.add_y]
    field_simp
  · simp only [cast_mul]
    rw [hf, hi, hg, hh, Affine.add_x, Affine.add_y]
    field_simp
  · exact mul_lt _ _
  · exact mul_lt _ _

theorem Point.Represents.foldl {p q : Point} {P Q : CurvePoint} (hp : p.Represents P)
    (hq : q.Represents Q) (digits : List Bool) :
    (digits.foldl (fun r bit => let r₂ := r.sum r; if bit then r₂.sum p else r₂) q).Represents
      (digits.foldl (fun R bit => if bit then R + R + P else R + R) Q) := by
  induction digits generalizing q Q with
  | nil => exact hq
  | cons bit rest ih =>
      rw [List.foldl_cons, List.foldl_cons]
      cases bit with
      | false => exact ih (hq.sum hq)
      | true => exact ih ((hq.sum hq).sum hp)

theorem Point.Represents.times {p : Point} {P : CurvePoint} (hp : p.Represents P) {n : Nat}
    (h : n < 2 ^ 256) : (p.times n).Represents (n • P) := by
  have hrun := hp.foldl Point.Represents.zero (bits 256 n)
  rw [foldl_bits_add, nsmul_zero, zero_add, Nat.mod_eq_of_lt h] at hrun
  exact hrun

/-- The bytes of a point of the curve: its second coordinate and the parity of the first. -/
def CurvePoint.bytes (P : CurvePoint) : List UInt8 :=
  Bytes.ofNatLittle 32 (P.y.val + Nat.pow 2 255 * (P.x.val % 2))

theorem Point.Represents.encode_eq {p : Point} {P : CurvePoint} (hp : p.Represents P) :
    p.encode = CurvePoint.bytes P := by
  have hcoordinate {n : Nat} {c : Residue} (h : (n : Residue) = c * p.z) :
      mul n (inverse p.z) = c.val := by
    apply eq_of_cast_eq (mul_lt _ _) (ZMod.val_lt c)
    rw [cast_mul, cast_inverse, h, mul_assoc, mul_inv_cancel₀ hp.z_ne, mul_one,
      ZMod.natCast_zmod_val]
  simp only [Point.encode, CurvePoint.bytes]
  rw [hcoordinate hp.x_eq, hcoordinate hp.y_eq]

/-- The base point of the group. -/
def CurvePoint.base : CurvePoint where
  x := Point.base.x
  y := Point.base.y
  on_curve := by
    have h : ((Point.base.y ^ 2 : Nat) : Residue) =
        ((1 + d * Point.base.x ^ 2 * Point.base.y ^ 2 + Point.base.x ^ 2 : Nat) : Residue) := by
      rw [cast_eq_cast_iff]
      norm_num [modulus, d, Point.base]
    push_cast at h
    linear_combination h

theorem Point.Represents.base : Point.base.Represents CurvePoint.base where
  z_ne := by simp [Point.base]
  x_eq := by simp [Point.base, CurvePoint.base]
  y_eq := by simp [Point.base, CurvePoint.base]
  t_eq := by simp [Point.base, CurvePoint.base]
  x_lt := by norm_num [modulus, Point.base]
  t_lt := mul_lt _ _

theorem Point.Represents.eq_zero {p : Point} {P : CurvePoint} (hp : p.Represents P)
    (hx : p.x = 0) (hy : p.y = p.z) : P = 0 := by
  have h₁ := hp.x_eq
  have h₂ := hp.y_eq
  rw [hx, Nat.cast_zero, eq_comm, mul_eq_zero] at h₁
  rw [hy] at h₂
  ext
  · exact h₁.resolve_right hp.z_ne
  · exact (mul_right_cancel₀ hp.z_ne (by rw [← h₂, Affine.zero_y, one_mul])).symm

/-- The base point has the order that scalars are counted modulo. -/
theorem order_smul_base : order • CurvePoint.base = 0 := by
  have h := Point.Represents.base.times (n := order) (by norm_num [order])
  exact h.eq_zero (by decide +kernel) (by decide +kernel)

theorem mod_order_smul_base (n : Nat) : (n % order) • CurvePoint.base = n • CurvePoint.base := by
  conv_rhs => rw [← Nat.div_add_mod n order, add_nsmul, mul_comm, mul_nsmul', order_smul_base,
    nsmul_zero, zero_add]

end WalletCredentials.Edwards

import Mathlib.Algebra.Field.Basic
import Mathlib.Algebra.Group.MinimalAxioms
import Mathlib.Algebra.Group.Even
import Mathlib.Tactic.FieldSimp
import Mathlib.Tactic.LinearCombination
import Mathlib.Tactic.Ring

/-!
# The group of an Edwards curve

The points of `y² - x² = 1 + d x² y²` over a field form a commutative group under one
rational addition law, provided that minus one is a square and `d` is none. Then no
denominator of the law is ever zero, so that the law needs no cases.

## Implementation notes

Each equation between sums is first proved without denominators, where it follows from
the curve's equation at the points that are added.
-/

namespace WalletCredentials.Edwards

/-- The constant of a curve whose addition law has no exceptions. -/
class IsComplete {F : Type*} [Field F] (d : F) : Prop where
  two_ne : (2 : F) ≠ 0
  root : ∃ i : F, i ^ 2 = -1
  nonsquare : ¬ IsSquare d

/-- A point of the curve with a given constant. -/
@[ext] structure Affine {F : Type*} [Field F] (d : F) where
  x : F
  y : F
  on_curve : y ^ 2 - x ^ 2 = 1 + d * x ^ 2 * y ^ 2

namespace Affine

variable {F : Type*} [Field F] {d : F}

instance : Zero (Affine d) := ⟨⟨0, 1, by ring⟩⟩

instance : Neg (Affine d) := ⟨fun P => ⟨-P.x, P.y, by linear_combination P.on_curve⟩⟩

@[simp] theorem zero_x : (0 : Affine d).x = 0 := rfl

@[simp] theorem zero_y : (0 : Affine d).y = 1 := rfl

@[simp] theorem neg_x (P : Affine d) : (-P).x = -P.x := rfl

@[simp] theorem neg_y (P : Affine d) : (-P).y = P.y := rfl

/-- The equation of the curve, as the square of the product of the coordinates. -/
theorem mul_sq (P : Affine d) : d * (P.x * P.y) ^ 2 = P.y ^ 2 - P.x ^ 2 - 1 := by
  linear_combination -P.on_curve

/-- The product that distinguishes the denominators of a sum from one. -/
def cross (P Q : Affine d) : F := d * P.x * Q.x * P.y * Q.y

theorem cross_comm (P Q : Affine d) : cross P Q = cross Q P := by
  unfold cross
  ring

theorem cross_sq (P Q : Affine d) :
    cross P Q ^ 2 = (P.y ^ 2 - P.x ^ 2 - 1) * (Q.y ^ 2 - Q.x ^ 2 - 1) := by
  unfold cross
  linear_combination d * (Q.x * Q.y) ^ 2 * P.mul_sq + (P.y ^ 2 - P.x ^ 2 - 1) * Q.mul_sq

/-- The constant would be a square if the product were one or minus one at a point with
`i x + y ≠ 0`. -/
theorem eq_zero_of_cross_sq [IsComplete d] {i : F} (hi : i ^ 2 = -1) (P Q : Affine d)
    (h : cross P Q ^ 2 = 1) : i * Q.x + Q.y = 0 := by
  by_contra hne
  have hcross : cross P Q ≠ 0 := by
    intro h0
    simp [h0] at h
  have hx : P.x ≠ 0 := by
    intro h0
    simp [cross, h0] at hcross
  have hy : P.y ≠ 0 := by
    intro h0
    simp [cross, h0] at hcross
  have key : (i * P.x + cross P Q * P.y) ^ 2 = d * (P.x * P.y * (i * Q.x + Q.y)) ^ 2 := by
    have hP := P.on_curve
    have hQ := Q.on_curve
    unfold cross at h ⊢
    linear_combination (P.x ^ 2 - d * P.x ^ 2 * P.y ^ 2 * Q.x ^ 2) * hi + hP -
      d * P.x ^ 2 * P.y ^ 2 * hQ + (P.y ^ 2 - 1) * h
  refine IsComplete.nonsquare (d := d)
    ⟨(i * P.x + cross P Q * P.y) / (P.x * P.y * (i * Q.x + Q.y)), ?_⟩
  have hden : P.x * P.y * (i * Q.x + Q.y) ≠ 0 := mul_ne_zero (mul_ne_zero hx hy) hne
  rw [div_mul_div_comm, ← sq, ← sq, key, mul_div_assoc, div_self (pow_ne_zero 2 hden), mul_one]

theorem cross_sq_ne_one [IsComplete d] (P Q : Affine d) : cross P Q ^ 2 ≠ 1 := by
  intro h
  obtain ⟨i, hi⟩ := IsComplete.root (d := d)
  have h₁ := eq_zero_of_cross_sq hi P Q h
  have h₂ := eq_zero_of_cross_sq (i := -i) (by rw [neg_sq, hi]) P Q h
  have h2y : 2 * Q.y = 0 := by linear_combination h₁ + h₂
  have hy : Q.y = 0 := (mul_eq_zero.mp h2y).resolve_left (IsComplete.two_ne d)
  simp [cross, hy] at h

theorem one_add_cross_ne [IsComplete d] (P Q : Affine d) : 1 + cross P Q ≠ 0 := by
  intro h
  exact cross_sq_ne_one P Q (by linear_combination (cross P Q - 1) * h)

theorem one_sub_cross_ne [IsComplete d] (P Q : Affine d) : 1 - cross P Q ≠ 0 := by
  intro h
  exact cross_sq_ne_one P Q (by linear_combination (-cross P Q - 1) * h)

/-- The numerators of a sum satisfy the curve's equation, denominators cleared. -/
theorem numerators_on_curve (P Q : Affine d) :
    (P.y * Q.y + P.x * Q.x) ^ 2 * (1 + cross P Q) ^ 2 -
        (P.x * Q.y + P.y * Q.x) ^ 2 * (1 - cross P Q) ^ 2 =
      (1 - cross P Q) ^ 2 * (1 + cross P Q) ^ 2 +
        d * (P.x * Q.y + P.y * Q.x) ^ 2 * (P.y * Q.y + P.x * Q.x) ^ 2 := by
  have hP := P.mul_sq
  have hQ := Q.mul_sq
  have hsq := cross_sq P Q
  unfold cross at hsq ⊢
  linear_combination ((P.y ^ 2 - P.x ^ 2) * (Q.y ^ 2 - Q.x ^ 2) + 2 -
        (d * P.x * Q.x * P.y * Q.y) ^ 2 - (P.y ^ 2 - P.x ^ 2 - 1) * (Q.y ^ 2 - Q.x ^ 2 - 1)) * hsq -
      (Q.y ^ 2 - Q.x ^ 2) ^ 2 * hP - (P.y ^ 2 - P.x ^ 2) ^ 2 * hQ

/-- The numerator of the first coordinate of `P + Q + R`. -/
def tripleX (P Q R : Affine d) : F :=
  (P.x * Q.y + P.y * Q.x) * (1 - cross P Q) * R.y + (P.y * Q.y + P.x * Q.x) * (1 + cross P Q) * R.x

/-- The numerator of the second coordinate of `P + Q + R`. -/
def tripleY (P Q R : Affine d) : F :=
  (P.y * Q.y + P.x * Q.x) * (1 + cross P Q) * R.y + (P.x * Q.y + P.y * Q.x) * (1 - cross P Q) * R.x

/-- The product that distinguishes the denominators of `P + Q + R`, denominators cleared. -/
def tripleCross (P Q R : Affine d) : F :=
  d * (P.x * Q.y + P.y * Q.x) * (P.y * Q.y + P.x * Q.x) * R.x * R.y

/-- Either numerator of a sum of three points, with the denominator of the rotated sum. Of a
point only the product `u` of its coordinates and the sum `s` and the difference `w` of their
squares are seen. -/
theorem numerator_rotate {u₁ u₂ u₃ w₁ w₂ w₃ : F} (s₁ s₂ s₃ S T T' : F)
    (h₁ : d * u₁ ^ 2 = w₁ - 1) (h₂ : d * u₂ ^ 2 = w₂ - 1) (h₃ : d * u₃ ^ 2 = w₃ - 1)
    (hprod : (u₃ * T' - u₁ * T) * w₂ * w₃ =
      -T * (u₂ * s₃ + u₃ * s₂) * w₁ + u₃ * T' * (w₃ - w₁) * w₂ + T' * (u₁ * s₂ + u₂ * s₁) * w₃)
    (hsum : (u₃ * T' - u₁ * T) * (w₂ + w₃) - S * (u₂ * (w₃ - w₁) + u₃ * s₁ - u₁ * s₃) =
      -T * (u₂ * s₃ + u₃ * s₂) + u₃ * T' * (w₃ - w₁) + T' * (u₁ * s₂ + u₂ * s₁)) :
    (S - d * u₁ * u₂ * T) * (1 - (d * u₂ * u₃) ^ 2 + d * u₁ * (u₂ * s₃ + u₃ * s₂)) =
      (S - d * u₂ * u₃ * T') * (1 - (d * u₁ * u₂) ^ 2 + d * u₃ * (u₁ * s₂ + u₂ * s₁)) := by
  linear_combination d * u₂ * (hsum - hprod +
    (S * u₂ - T * (u₂ * s₃ + u₃ * s₂) - d * u₂ ^ 2 * u₃ * T') * h₁ +
    (u₁ * T * (w₃ - 1) - u₃ * T' * (w₁ - 1)) * h₂ +
    (T' * (u₁ * s₂ + u₂ * s₁) - S * u₂ + d * u₂ ^ 2 * u₁ * T) * h₃)

/-- The first coordinate of a sum of three points does not change when they are rotated. -/
theorem tripleX_rotate (P Q R : Affine d) :
    tripleX P Q R * ((1 + cross Q R) * (1 - cross Q R) + tripleCross Q R P) =
      tripleX Q R P * ((1 + cross P Q) * (1 - cross P Q) + tripleCross P Q R) := by
  have key := numerator_rotate
    (P.x ^ 2 + P.y ^ 2) (Q.x ^ 2 + Q.y ^ 2) (R.x ^ 2 + R.y ^ 2)
    (P.x * Q.y * R.y + Q.x * P.y * R.y + R.x * P.y * Q.y + P.x * Q.x * R.x)
    (P.x * Q.y * R.y + Q.x * P.y * R.y - R.x * P.y * Q.y - P.x * Q.x * R.x)
    (Q.x * R.y * P.y + R.x * Q.y * P.y - P.x * Q.y * R.y - P.x * Q.x * R.x)
    P.mul_sq Q.mul_sq R.mul_sq (by ring) (by ring)
  unfold tripleX tripleCross cross
  linear_combination key

/-- The second coordinate of a sum of three points does not change when they are rotated. -/
theorem tripleY_rotate (P Q R : Affine d) :
    tripleY P Q R * ((1 + cross Q R) * (1 - cross Q R) - tripleCross Q R P) =
      tripleY Q R P * ((1 + cross P Q) * (1 - cross P Q) - tripleCross P Q R) := by
  have key := numerator_rotate
    (-(P.x ^ 2 + P.y ^ 2)) (-(Q.x ^ 2 + Q.y ^ 2)) (-(R.x ^ 2 + R.y ^ 2))
    (P.y * Q.y * R.y + P.x * Q.x * R.y + P.x * Q.y * R.x + P.y * Q.x * R.x)
    (P.x * Q.y * R.x + P.y * Q.x * R.x - P.y * Q.y * R.y - P.x * Q.x * R.y)
    (Q.x * R.y * P.x + Q.y * R.x * P.x - P.y * Q.y * R.y - Q.x * R.x * P.y)
    P.mul_sq Q.mul_sq R.mul_sq (by ring) (by ring)
  unfold tripleY tripleCross cross
  linear_combination key

variable [IsComplete d]

instance : Add (Affine d) where
  add P Q := {
    x := (P.x * Q.y + P.y * Q.x) / (1 + cross P Q)
    y := (P.y * Q.y + P.x * Q.x) / (1 - cross P Q)
    on_curve := by
      have h₁ := one_add_cross_ne P Q
      have h₂ := one_sub_cross_ne P Q
      have key := numerators_on_curve P Q
      field_simp
      linear_combination key }

theorem add_x (P Q : Affine d) : (P + Q).x = (P.x * Q.y + P.y * Q.x) / (1 + cross P Q) := rfl

theorem add_y (P Q : Affine d) : (P + Q).y = (P.y * Q.y + P.x * Q.x) / (1 - cross P Q) := rfl

theorem cross_add (P Q R : Affine d) :
    tripleCross P Q R = (1 + cross P Q) * (1 - cross P Q) * cross (P + Q) R := by
  have h₁ := one_add_cross_ne P Q
  have h₂ := one_sub_cross_ne P Q
  change _ = _ * (d * (P + Q).x * R.x * (P + Q).y * R.y)
  rw [add_x, add_y, tripleCross]
  field_simp

theorem add_add_x (P Q R : Affine d) :
    (P + Q + R).x * ((1 + cross P Q) * (1 - cross P Q) + tripleCross P Q R) = tripleX P Q R := by
  have h₁ := one_add_cross_ne P Q
  have h₂ := one_sub_cross_ne P Q
  have h₃ := one_add_cross_ne (P + Q) R
  rw [cross_add, add_x (P + Q), add_x, add_y, tripleX]
  field_simp

theorem add_add_y (P Q R : Affine d) :
    (P + Q + R).y * ((1 + cross P Q) * (1 - cross P Q) - tripleCross P Q R) = tripleY P Q R := by
  have h₁ := one_add_cross_ne P Q
  have h₂ := one_sub_cross_ne P Q
  have h₃ := one_sub_cross_ne (P + Q) R
  rw [cross_add, add_y (P + Q), add_x, add_y, tripleY]
  field_simp

theorem one_add_tripleCross_ne (P Q R : Affine d) :
    (1 + cross P Q) * (1 - cross P Q) + tripleCross P Q R ≠ 0 := by
  have h : (1 + cross P Q) * (1 - cross P Q) + tripleCross P Q R =
      (1 + cross P Q) * (1 - cross P Q) * (1 + cross (P + Q) R) := by
    rw [cross_add]
    ring
  rw [h]
  exact mul_ne_zero (mul_ne_zero (one_add_cross_ne P Q) (one_sub_cross_ne P Q))
    (one_add_cross_ne (P + Q) R)

theorem one_sub_tripleCross_ne (P Q R : Affine d) :
    (1 + cross P Q) * (1 - cross P Q) - tripleCross P Q R ≠ 0 := by
  have h : (1 + cross P Q) * (1 - cross P Q) - tripleCross P Q R =
      (1 + cross P Q) * (1 - cross P Q) * (1 - cross (P + Q) R) := by
    rw [cross_add]
    ring
  rw [h]
  exact mul_ne_zero (mul_ne_zero (one_add_cross_ne P Q) (one_sub_cross_ne P Q))
    (one_sub_cross_ne (P + Q) R)

theorem add_rotate (P Q R : Affine d) : P + Q + R = Q + R + P := by
  ext
  · apply mul_right_cancel₀ (mul_ne_zero (one_add_tripleCross_ne P Q R) (one_add_tripleCross_ne Q R P))
    calc
      (P + Q + R).x * (_ * _) = tripleX P Q R * _ := by rw [← mul_assoc, add_add_x]
      _ = tripleX Q R P * _ := tripleX_rotate P Q R
      _ = (Q + R + P).x * (_ * _) := by rw [← add_add_x Q R P]; ring
  · apply mul_right_cancel₀ (mul_ne_zero (one_sub_tripleCross_ne P Q R) (one_sub_tripleCross_ne Q R P))
    calc
      (P + Q + R).y * (_ * _) = tripleY P Q R * _ := by rw [← mul_assoc, add_add_y]
      _ = tripleY Q R P * _ := tripleY_rotate P Q R
      _ = (Q + R + P).y * (_ * _) := by rw [← add_add_y Q R P]; ring

protected theorem add_comm (P Q : Affine d) : P + Q = Q + P := by
  ext
  · rw [add_x, add_x, cross_comm]
    ring
  · rw [add_y, add_y, cross_comm]
    ring

protected theorem zero_add (P : Affine d) : 0 + P = P := by
  have h : cross 0 P = 0 := by simp [cross]
  ext
  · simp [add_x, h]
  · simp [add_y, h]

protected theorem neg_add_cancel (P : Affine d) : -P + P = 0 := by
  have h : 1 - cross (-P) P = P.y * P.y - P.x * P.x := by
    have hP := P.on_curve
    simp only [cross, neg_x, neg_y]
    linear_combination -hP
  have hne : P.y * P.y - P.x * P.x ≠ 0 := h ▸ one_sub_cross_ne (-P) P
  ext
  · rw [add_x, neg_x, neg_y, zero_x, div_eq_zero_iff]
    left
    ring
  · rw [add_y, h, neg_x, neg_y, zero_y, neg_mul, ← sub_eq_add_neg, div_self hne]

instance : AddCommGroup (Affine d) where
  __ := AddGroup.ofLeftAxioms
    (fun P Q R => (add_rotate P Q R).trans (Affine.add_comm _ _)) Affine.zero_add
    Affine.neg_add_cancel
  add_comm := Affine.add_comm

end Affine

end WalletCredentials.Edwards

import Mathlib.Data.List.Prime
import Mathlib.NumberTheory.LegendreSymbol.Basic
import Mathlib.NumberTheory.LucasPrimality
import Mathlib.Tactic.NormNum.Prime
import WalletCredentials.Crypto.Edwards
import WalletCredentials.Proofs.Crypto.EdwardsCurve

/-!
# The field of the curve

The modulus is a prime, minus one is a square modulo it and the constant of the curve is
none. So the points of the curve form a group.

## Implementation notes

Primality follows from Lucas' test: a number that has the order of a whole group of units
modulo `p` leaves no divisor of `p` but itself. The factors of `p - 1` are tested in the
same way, down to numbers that trial division settles.
-/

namespace WalletCredentials.Edwards

theorem mod_two_pow_succ (n count : Nat) :
    n % 2 ^ (count + 1) = n % 2 ^ count + if n.testBit count then 2 ^ count else 0 := by
  have hbit : n / 2 ^ count % 2 < 2 := Nat.mod_lt _ (by decide)
  rw [Nat.mod_pow_succ, Nat.testBit_eq_decide_div_mod_eq]
  by_cases h : n / 2 ^ count % 2 = 1
  · simp [h]
  · have h0 : n / 2 ^ count % 2 = 0 := by omega
    simp [h0]

/-- Squaring along the bits of a number raises to its power. -/
theorem foldl_bits {M : Type*} [CommMonoid M] (b r : M) (count n : Nat) :
    (bits count n).foldl (fun r bit => if bit then r * r * b else r * r) r =
      r ^ 2 ^ count * b ^ (n % 2 ^ count) := by
  induction count generalizing r with
  | zero => simp [bits, Nat.mod_one]
  | succ count ih =>
      rw [bits, List.foldl_cons, ih, mod_two_pow_succ]
      cases n.testBit count with
      | false => simp [← sq, ← pow_mul, ← pow_succ']
      | true =>
          simp only [if_true]
          rw [mul_pow, ← sq, ← pow_mul, ← pow_succ', pow_add, mul_assoc, mul_comm (b ^ 2 ^ count), ← pow_add,
            pow_add b]

/-- Doubling along the bits of a number multiplies by it. -/
theorem foldl_bits_add {M : Type*} [AddCommMonoid M] (b r : M) (count n : Nat) :
    (bits count n).foldl (fun r bit => if bit then r + r + b else r + r) r =
      2 ^ count • r + (n % 2 ^ count) • b :=
  foldl_bits (M := Multiplicative M) b r count n

/-- A power modulo a number, by squaring along the bits of the exponent. -/
def powMod (m base exponent : Nat) : Nat :=
  (bits 256 exponent).foldl (fun r bit => if bit then r * r % m * base % m else r * r % m) 1

theorem cast_powMod (m base : Nat) {exponent : Nat} (h : exponent < 2 ^ 256) :
    (powMod m base exponent : ZMod m) = (base : ZMod m) ^ exponent := by
  have hfold := foldl_bits (base : ZMod m) 1 256 exponent
  rw [one_pow, one_mul, Nat.mod_eq_of_lt h] at hfold
  rw [← hfold, powMod]
  have hhom : (bits 256 exponent).foldl (fun r bit => if bit then r * r * base else r * r)
        ((1 : Nat) : ZMod m) =
      ((bits 256 exponent).foldl (fun r bit => if bit then r * r % m * base % m else r * r % m) 1 :
        Nat) :=
    List.foldl_hom Nat.cast fun r bit => by cases bit <;> simp
  rw [← hhom, Nat.cast_one]

/-- Lucas' test, with the factors of `p - 1` and a number of the whole order. -/
theorem prime_of_powMod (p base : Nat) (small large : List Nat) (hp : 1 < p ∧ p ≤ 2 ^ 256)
    (hprod : (small ++ large).prod = p - 1) (hsmall : ∀ q ∈ small, q.Prime)
    (hlarge : ∀ q ∈ large, q.Prime) (hone : powMod p base (p - 1) % p = 1)
    (hne : ∀ q ∈ small ++ large, powMod p base ((p - 1) / q) % p ≠ 1) : p.Prime := by
  have hiff {n : Nat} (hn : n ≤ p - 1) : (base : ZMod p) ^ n = 1 ↔ powMod p base n % p = 1 := by
    rw [← cast_powMod p base (by omega), ← Nat.cast_one (R := ZMod p),
      ZMod.natCast_eq_natCast_iff, Nat.ModEq, Nat.mod_eq_of_lt hp.1]
  refine lucas_primality p (base : ZMod p) ((hiff le_rfl).mpr hone) fun q hq hdvd hpow => ?_
  rw [← hprod] at hdvd
  obtain ⟨q', hmem, hdvd⟩ := (Prime.dvd_prod_iff hq.prime).mp hdvd
  have hq' : q'.Prime := (List.mem_append.mp hmem).elim (hsmall q') (hlarge q')
  obtain rfl : q = q' := (Nat.prime_dvd_prime_iff_eq hq hq').mp hdvd
  exact hne q hmem ((hiff (Nat.div_le_self _ _)).mp hpow)

/-- The modulus is a prime. -/
theorem prime_modulus : Nat.Prime modulus := by
  have h₁ : Nat.Prime 2773320623 :=
    prime_of_powMod _ 5 [2, 2437, 569003] [] (by norm_num) (by norm_num) (by norm_num) (by simp)
      (by decide +kernel) (by decide +kernel)
  have h₂ : Nat.Prime 72106336199 :=
    prime_of_powMod _ 7 [2, 13] [2773320623] (by norm_num) (by norm_num) (by norm_num)
      (by simp [h₁]) (by decide +kernel) (by decide +kernel)
  have h₃ : Nat.Prime 1919519569386763 :=
    prime_of_powMod _ 2 [2, 3, 7, 19, 47, 47, 127, 8574133] [] (by norm_num) (by norm_num)
      (by norm_num) (by simp) (by decide +kernel) (by decide +kernel)
  have h₄ : Nat.Prime 31757755568855353 :=
    prime_of_powMod _ 10 [2, 2, 2, 3, 31, 107, 223, 4153, 430751] [] (by norm_num) (by norm_num)
      (by norm_num) (by simp) (by decide +kernel) (by decide +kernel)
  have h₅ : Nat.Prime 75445702479781427272750846543864801 :=
    prime_of_powMod _ 7 [2, 2, 2, 2, 2, 3, 3, 5, 5, 75707] [72106336199, 1919519569386763]
      (by norm_num) (by norm_num) (by norm_num) (by simp [h₂, h₃]) (by decide +kernel)
      (by decide +kernel)
  have h₆ : Nat.Prime 74058212732561358302231226437062788676166966415465897661863160754340907 :=
    prime_of_powMod _ 2 [2, 3, 353, 57467, 132049, 1923133]
      [31757755568855353, 75445702479781427272750846543864801] (by norm_num) (by norm_num)
      (by norm_num) (by simp [h₄, h₅]) (by decide +kernel) (by decide +kernel)
  exact prime_of_powMod _ 2 [2, 2, 3, 65147]
    [74058212732561358302231226437062788676166966415465897661863160754340907]
    (by norm_num [modulus]) (by norm_num [modulus]) (by norm_num) (by simp [h₆])
    (by decide +kernel) (by decide +kernel)

instance : Fact (Nat.Prime modulus) := ⟨prime_modulus⟩

/-- Whole numbers modulo the modulus. -/
abbrev Residue : Type := ZMod modulus

theorem cast_eq_cast_iff (a b : Nat) :
    (a : Residue) = (b : Residue) ↔ a % modulus = b % modulus :=
  ZMod.natCast_eq_natCast_iff a b modulus

theorem cast_pow_eq_iff (base exponent value : Nat) (h : exponent < 2 ^ 256) :
    (base : Residue) ^ exponent = (value : Residue) ↔
      powMod modulus base exponent % modulus = value % modulus := by
  rw [← cast_powMod modulus base h, cast_eq_cast_iff]

theorem sqrtMinusOne_sq : (sqrtMinusOne : Residue) ^ 2 = -1 := by
  have h : ((sqrtMinusOne ^ 2 + 1 : Nat) : Residue) = ((0 : Nat) : Residue) := by
    rw [cast_eq_cast_iff]
    norm_num [modulus, sqrtMinusOne]
  push_cast at h
  linear_combination h

theorem nonsquare_d : ¬ IsSquare (d : Residue) := by
  have hne : (d : Residue) ≠ 0 := by
    rw [← Nat.cast_zero, Ne, cast_eq_cast_iff]
    norm_num [modulus, d]
  rw [ZMod.euler_criterion modulus hne, ← Nat.cast_one (R := Residue),
    cast_pow_eq_iff _ _ _ (by norm_num [modulus])]
  decide +kernel

instance : IsComplete (d : Residue) where
  two_ne := by
    rw [← Nat.cast_ofNat, ← Nat.cast_zero, Ne, cast_eq_cast_iff]
    norm_num [modulus]
  root := ⟨sqrtMinusOne, sqrtMinusOne_sq⟩
  nonsquare := nonsquare_d

end WalletCredentials.Edwards

import Mathlib.GroupTheory.OrderOfElement
import WalletCredentials.Proofs.Crypto.Decompression

/-!
# The order of the group

The points of the curve are eight times as many as the multiples of the base point, whose
number is a prime. So a point either is one of few, whose multiples repeat after at most
eight steps, or it has no two equal multiples below the order of the base point.

## Implementation notes

No points are counted. The base point and a point of order eight give a divisor of their
number, and the bytes of the points give a bound below twice that divisor.
-/

namespace WalletCredentials.Edwards

/-- The order of the base point is a prime. -/
theorem prime_order : Nat.Prime order := by
  have h₁ : Nat.Prime 1257559732178653 :=
    prime_of_powMod _ 2 [2, 2, 3, 7, 23, 531581, 1224481] [] (by norm_num) (by norm_num)
      (by norm_num) (by simp) (by decide +kernel) (by decide +kernel)
  have h₂ : Nat.Prime 4434155615661930479 :=
    prime_of_powMod _ 17 [2, 41, 43] [1257559732178653] (by norm_num) (by norm_num)
      (by norm_num) (by simp [h₁]) (by decide +kernel) (by decide +kernel)
  have h₃ : Nat.Prime 172054593956031949258510691 :=
    prime_of_powMod _ 2 [2, 5, 1361, 2851] [4434155615661930479] (by norm_num) (by norm_num)
      (by norm_num) (by simp [h₂]) (by decide +kernel) (by decide +kernel)
  have h₄ : Nat.Prime 213441916511 := by
    have h : Nat.Prime 292386187 :=
      prime_of_powMod _ 2 [2, 3, 3, 3, 3, 307, 5879] [] (by norm_num) (by norm_num)
        (by norm_num) (by simp) (by decide +kernel) (by decide +kernel)
    exact prime_of_powMod _ 13 [2, 5, 73] [292386187] (by norm_num) (by norm_num)
      (by norm_num) (by simp [h]) (by decide +kernel) (by decide +kernel)
  have h₅ : Nat.Prime 19757330305831588566944191468367130476339 :=
    prime_of_powMod _ 2 [2, 269] [213441916511, 172054593956031949258510691] (by norm_num)
      (by norm_num) (by norm_num) (by simp [h₃, h₄]) (by decide +kernel) (by decide +kernel)
  have h₆ : Nat.Prime 276602624281642239937218680557139826668747 :=
    prime_of_powMod _ 2 [2, 7] [19757330305831588566944191468367130476339] (by norm_num)
      (by norm_num) (by norm_num) (by simp [h₅]) (by decide +kernel) (by decide +kernel)
  have h₇ : Nat.Prime 3044861653679985063343 :=
    prime_of_powMod _ 5 [2, 3, 11, 30703, 82163, 132667, 137849] [] (by norm_num) (by norm_num)
      (by norm_num) (by simp) (by decide +kernel) (by decide +kernel)
  have h₈ : Nat.Prime 198211423230930754013084525763697 := by
    have h : Nat.Prime 58964693 :=
      prime_of_powMod _ 2 [2, 2, 14741173] [] (by norm_num) (by norm_num)
        (by norm_num) (by simp) (by decide +kernel) (by decide +kernel)
    exact prime_of_powMod _ 5 [2, 2, 2, 2, 3, 23] [58964693, 3044861653679985063343]
      (by norm_num) (by norm_num) (by norm_num) (by simp [h, h₇]) (by decide +kernel)
      (by decide +kernel)
  exact prime_of_powMod _ 2 [2, 2, 3, 11]
    [198211423230930754013084525763697, 276602624281642239937218680557139826668747]
    (by norm_num [order]) (by norm_num [order]) (by norm_num) (by simp [h₆, h₈])
    (by decide +kernel) (by decide +kernel)

instance : Fact (Nat.Prime order) := ⟨prime_order⟩

/-- The second coordinate of a point and the parity of the first, which its bytes hold. -/
def CurvePoint.sketch (P : CurvePoint) : Residue × Bool := (P.y, decide (P.x.val % 2 = 1))

theorem CurvePoint.sketch_injective : Function.Injective CurvePoint.sketch := by
  intro P Q h
  obtain ⟨hy, hparity⟩ := Prod.ext_iff.mp h
  have hmod : P.x.val % 2 = Q.x.val % 2 := by
    have := decide_eq_decide.mp hparity
    omega
  apply CurvePoint.bytes_injective
  rw [CurvePoint.bytes, CurvePoint.bytes, show P.y = Q.y from hy, hmod]

instance : Finite CurvePoint := Finite.of_injective _ CurvePoint.sketch_injective

theorem CurvePoint.card_le : Nat.card CurvePoint ≤ modulus * 2 := by
  have h := Nat.card_le_card_of_injective _ CurvePoint.sketch_injective
  rwa [Nat.card_prod, Nat.card_zmod, Nat.card_eq_fintype_card (α := Bool), Fintype.card_bool] at h

theorem addOrderOf_base : addOrderOf CurvePoint.base = order := by
  refine addOrderOf_eq_prime order_smul_base fun h => ?_
  have hx : ((Point.base.x : Nat) : Residue) = ((0 : Nat) : Residue) := by
    rw [Nat.cast_zero]
    exact congrArg Affine.x h
  rw [cast_eq_cast_iff] at hx
  exact absurd hx (by norm_num [modulus, Point.base])

/-- There is a point of order eight. -/
theorem exists_addOrderOf_eq_eight : ∃ P : CurvePoint, addOrderOf P = 2 ^ 3 := by
  let x := 14399317868200118260347934320527232580618823971194345261214217575416788799818
  let y := 2707385501144840649318225287225658788936804267575313519463743609750303402022
  have hdecode : Point.decode? (Bytes.ofNatLittle 32 y) = some ⟨x, y, 1, mul x y⟩ := by
    decide +kernel
  obtain ⟨P, hP⟩ := Point.exists_represents_of_decode? hdecode
  refine ⟨P, addOrderOf_eq_prime_pow (fun h => ?_) ?_⟩
  · have hy := (hP.times (n := 2 ^ 2) (by norm_num)).y_eq
    rw [h, Affine.zero_y, one_mul, cast_eq_cast_iff] at hy
    exact absurd hy (by decide +kernel)
  · have h := hP.times (n := 2 ^ 3) (by norm_num)
    exact h.eq_zero (by decide +kernel) (by decide +kernel)

/-- The number of the points of the curve. -/
theorem CurvePoint.card_eq : Nat.card CurvePoint = 8 * order := by
  obtain ⟨P, hP⟩ := exists_addOrderOf_eq_eight
  have height : 8 ∣ Nat.card CurvePoint := by
    rw [show 8 = addOrderOf P from hP.symm]
    exact addOrderOf_dvd_natCard P
  have horder : order ∣ Nat.card CurvePoint := by
    rw [← addOrderOf_base]
    exact addOrderOf_dvd_natCard _
  have hcoprime : Nat.Coprime 8 order := by norm_num [order]
  obtain ⟨n, hn⟩ := hcoprime.mul_dvd_of_dvd_of_dvd height horder
  have hpos : 0 < Nat.card CurvePoint := Nat.card_pos
  have hle := CurvePoint.card_le
  -- The bound is less than twice the divisor, so that the quotient is 1.
  have hbound : modulus * 2 < 8 * order * 2 := by norm_num [modulus, order]
  rw [hn] at hpos hle ⊢
  have hn1 : n < 2 := lt_of_mul_lt_mul_left (hle.trans_lt hbound) (Nat.zero_le _)
  have hn0 : 0 < n := Nat.pos_of_mul_pos_left hpos
  rw [show n = 1 by omega, mul_one]

/-- The order of a point divides eight or is a multiple of the order of the base point. -/
theorem CurvePoint.addOrderOf_dvd_or (P : CurvePoint) :
    addOrderOf P ∣ 8 ∨ order ∣ addOrderOf P := by
  have hdvd : addOrderOf P ∣ 8 * order := by
    rw [← CurvePoint.card_eq]
    exact addOrderOf_dvd_natCard P
  by_cases h : order ∣ addOrderOf P
  · exact .inr h
  · exact .inl (((prime_order.coprime_iff_not_dvd.mpr h).symm).dvd_of_dvd_mul_right hdvd)

end WalletCredentials.Edwards

import WalletCredentials.Proofs.Crypto.EdwardsPoint

/-!
# Reading the bytes of a point

The bytes of a point hold its second coordinate and the parity of the first. The first
coordinate is a root of a quotient, found by one power up to a square root of minus one,
and the parity tells the two roots apart. So the bytes of a point of the curve are read
back as that point, and whatever bytes are read as is a point of the curve.
-/

namespace WalletCredentials.Edwards

namespace CurvePoint

/-- The denominator of the square of the first coordinate. -/
def denominator (P : CurvePoint) : Residue := d * P.y ^ 2 + 1

theorem numerator_eq (P : CurvePoint) : P.y ^ 2 - 1 = P.x ^ 2 * P.denominator := by
  rw [denominator]
  linear_combination P.on_curve

theorem denominator_ne (P : CurvePoint) : P.denominator ≠ 0 := by
  intro h
  rw [denominator] at h
  have hy : P.y ≠ 0 := by
    intro h0
    simp [h0] at h
  refine nonsquare_d ⟨sqrtMinusOne / P.y, ?_⟩
  rw [div_mul_div_comm, ← sq, ← sq, sqrtMinusOne_sq, eq_div_iff (pow_ne_zero 2 hy)]
  linear_combination h

/-- The candidate for the first coordinate. -/
def candidate (P : CurvePoint) : Residue :=
  (P.y ^ 2 - 1) * P.denominator ^ 3 *
    ((P.y ^ 2 - 1) * P.denominator ^ 7) ^ ((modulus - 5) / 8)

theorem candidate_eq (P : CurvePoint) :
    P.candidate = P.x * (P.x * P.denominator ^ 4) ^ (modulus / 4) := by
  have hexp : modulus / 4 = 2 * ((modulus - 5) / 8) + 1 := by norm_num [modulus]
  have hbase : P.x ^ 2 * P.denominator * P.denominator ^ 7 = (P.x * P.denominator ^ 4) ^ 2 := by
    ring
  rw [candidate, numerator_eq, hexp, hbase, ← pow_mul]
  ring

/-- The candidate is the first coordinate, up to a square root of one or of minus one. -/
theorem candidate_sq (P : CurvePoint) :
    P.candidate ^ 2 = P.x ^ 2 ∨ P.candidate ^ 2 = -P.x ^ 2 := by
  by_cases hx : P.x = 0
  · left
    rw [candidate_eq, hx]
    ring
  have hne : P.x * P.denominator ^ 4 ≠ 0 := mul_ne_zero hx (pow_ne_zero 4 P.denominator_ne)
  have hexp : modulus / 4 * 2 = modulus / 2 := by norm_num [modulus]
  rw [candidate_eq, mul_pow, ← pow_mul, hexp]
  rcases ZMod.pow_div_two_eq_neg_one_or_one modulus hne with h | h
  · left
    rw [h, mul_one]
  · right
    rw [h]
    ring

end CurvePoint

theorem modulus_odd : modulus % 2 = 1 := by norm_num [modulus]

/-- Of the two roots of a square the parity tells which one is meant. -/
theorem root_of_parity {c : Residue} {n : Nat} (hn : n < modulus) (h : (n : Residue) ^ 2 = c ^ 2) :
    (if (n % 2 = 1) = (decide (c.val % 2 = 1)) then n else sub 0 n) = c.val := by
  have hc := ZMod.val_lt c
  have hcast : ((c.val : Nat) : Residue) = c := ZMod.natCast_zmod_val c
  rcases sq_eq_sq_iff_eq_or_eq_neg.mp h with h | h
  · have hval : n = c.val := eq_of_cast_eq hn hc (h.trans hcast.symm)
    simp [hval]
  · have hneg : sub 0 n = c.val := by
      apply eq_of_cast_eq (sub_lt _ _) hc
      rw [cast_sub hn.le, h, hcast, Nat.cast_zero, zero_sub, neg_neg]
    rw [hneg, ite_eq_right_iff]
    intro hparity
    simp only [decide_eq_true_eq, eq_iff_iff] at hparity
    have hval : (modulus - n) % modulus = c.val := by simpa [sub] using hneg
    by_cases h0 : n = 0
    · simpa [h0] using hval
    · have hodd := modulus_odd
      rw [Nat.mod_eq_of_lt (by omega)] at hval
      omega

/-- The search for a first coordinate tries one candidate `r` for the root of the quotient of `u`
and `v`, and then its product with the square root of minus one. -/
theorem exists_recoverX?_eq (y : Nat) (odd : Bool) :
    ∃ u v r : Nat, u < modulus ∧ r < modulus ∧ (u : Residue) = y ^ 2 - 1 ∧
      (v : Residue) = d * y ^ 2 + 1 ∧
      (r : Residue) = u * v ^ 3 * (u * v ^ 7 : Residue) ^ ((modulus - 5) / 8) ∧
      recoverX? y odd =
        (if mul v (mul r r) = u then some r
          else if mul v (mul r r) = sub 0 u then some (mul r sqrtMinusOne) else none).map
          fun x => if (x % 2 = 1) = odd then x else sub 0 x := by
  refine ⟨_, _, _, sub_lt _ _, mul_lt _ _, ?_, ?_, ?_, rfl⟩
  · rw [cast_sub modulus_pos, cast_mul, Nat.cast_one, sq]
  · rw [cast_add, cast_mul, cast_mul, Nat.cast_one, sq]
  · rw [cast_mul, cast_pow _ (by norm_num [modulus])]
    simp only [cast_mul]
    ring

theorem recoverX?_eq (P : CurvePoint) :
    recoverX? P.y.val (decide (P.x.val % 2 = 1)) = some P.x.val := by
  obtain ⟨u, v, r, hu, hr, hu_eq, hv_eq, hr_eq, hrecover⟩ :=
    exists_recoverX?_eq P.y.val (decide (P.x.val % 2 = 1))
  rw [ZMod.natCast_zmod_val] at hu_eq hv_eq
  change (v : Residue) = P.denominator at hv_eq
  have hcandidate : (r : Residue) = P.candidate := by
    rw [hr_eq, hu_eq, hv_eq, CurvePoint.candidate]
  have hcheck : ((mul v (mul r r) : Nat) : Residue) = P.denominator * P.candidate ^ 2 := by
    rw [cast_mul, cast_mul, hv_eq, hcandidate, sq]
  have hux : (u : Residue) = P.denominator * P.x ^ 2 := by
    rw [hu_eq, P.numerator_eq, mul_comm]
  have hneg : ((sub 0 u : Nat) : Residue) = P.denominator * -P.x ^ 2 := by
    rw [cast_sub hu.le, hux, Nat.cast_zero]
    ring
  rw [hrecover]
  by_cases h : mul v (mul r r) = u
  · have hsq : (r : Residue) ^ 2 = P.x ^ 2 := by
      rw [h, hux, mul_right_inj' P.denominator_ne] at hcheck
      rw [hcandidate, hcheck]
    rw [if_pos h, Option.map_some, root_of_parity hr hsq]
  · have hsq : P.candidate ^ 2 = -P.x ^ 2 := by
      refine P.candidate_sq.resolve_left fun hsq => h (eq_of_cast_eq (mul_lt _ _) hu ?_)
      rw [hcheck, hsq, hux]
    have h' : mul v (mul r r) = sub 0 u := by
      apply eq_of_cast_eq (mul_lt _ _) (sub_lt _ _)
      rw [hcheck, hsq, hneg]
    have hsq' : ((mul r sqrtMinusOne : Nat) : Residue) ^ 2 = P.x ^ 2 := by
      rw [cast_mul, mul_pow, hcandidate, hsq, sqrtMinusOne_sq]
      ring
    rw [if_neg h, if_pos h', Option.map_some, root_of_parity (mul_lt _ _) hsq']

/-- A first coordinate that is found for a second one belongs to it. -/
theorem recoverX?_sq {y : Nat} {odd : Bool} {x : Nat} (h : recoverX? y odd = some x) :
    x < modulus ∧ (x : Residue) ^ 2 * (d * y ^ 2 + 1) = y ^ 2 - 1 := by
  obtain ⟨u, v, r, hu, hr, hu_eq, hv_eq, -, hrecover⟩ := exists_recoverX?_eq y odd
  rw [hrecover] at h
  rw [← hu_eq, ← hv_eq]
  obtain ⟨root, hroot, hx⟩ := Option.map_eq_some_iff.mp h
  have hsq : root < modulus ∧ (root : Residue) ^ 2 * v = u := by
    split at hroot
    · rename_i hcheck
      obtain rfl := Option.some.inj hroot
      refine ⟨hr, ?_⟩
      rw [← hcheck, cast_mul, cast_mul]
      ring
    · split at hroot
      · rename_i hcheck
        obtain rfl := Option.some.inj hroot
        refine ⟨mul_lt _ _, ?_⟩
        have hneg := congrArg (Nat.cast (R := Residue)) hcheck
        rw [cast_mul, cast_mul, cast_sub hu.le, Nat.cast_zero] at hneg
        rw [cast_mul, mul_pow, sqrtMinusOne_sq]
        linear_combination -hneg
      · cases hroot
  split at hx
  · rw [← hx]
    exact hsq
  · rw [← hx, cast_sub hsq.1.le, Nat.cast_zero, zero_sub, neg_sq]
    exact ⟨sub_lt _ _, hsq.2⟩

theorem toNatLittle_ofNatLittle (width n : Nat) :
    Bytes.toNatLittle (Bytes.ofNatLittle width n) = n % 256 ^ width := by
  induction width generalizing n with
  | zero => simp [Bytes.ofNatLittle, Bytes.toNatLittle, Nat.mod_one]
  | succ width ih =>
      rw [Bytes.ofNatLittle, Bytes.toNatLittle, ih, UInt8.toNat_ofNat', pow_succ' 256 width,
        Nat.mod_mul]

/-- What bytes are read as is a point of the curve. -/
theorem Point.exists_represents_of_decode? {bytes : List UInt8} {p : Point}
    (h : Point.decode? bytes = some p) : ∃ P : CurvePoint, p.Represents P := by
  obtain ⟨x, hx, rfl⟩ := Option.map_eq_some_iff.mp h
  obtain ⟨hlt, hsq⟩ := recoverX?_sq hx
  generalize Bytes.toNatLittle bytes % Nat.pow 2 255 % modulus = y at hsq ⊢
  refine ⟨⟨x, y, by linear_combination -hsq⟩, ?_⟩
  constructor
  · simp
  · simp
  · simp
  · simp
  · exact hlt
  · exact mul_lt _ _

/-- The bytes of a point of the curve are read back as it. -/
theorem Point.decode?_bytes (P : CurvePoint) :
    ∃ p, Point.decode? P.bytes = some p ∧ p.Represents P := by
  have hy : P.y.val < modulus := ZMod.val_lt P.y
  have hpow : modulus + 19 = Nat.pow 2 255 := by norm_num [modulus]
  have hn : Bytes.toNatLittle P.bytes = P.y.val + Nat.pow 2 255 * (P.x.val % 2) := by
    rw [CurvePoint.bytes, toNatLittle_ofNatLittle, Nat.mod_eq_of_lt]
    have h256 : 2 * Nat.pow 2 255 = 256 ^ 32 := by norm_num
    have := Nat.mod_lt P.x.val (show 0 < 2 by decide)
    nlinarith
  have hlow : Bytes.toNatLittle P.bytes % Nat.pow 2 255 % modulus = P.y.val := by
    rw [hn, Nat.add_mul_mod_self_left, Nat.mod_eq_of_lt (hy.trans (by omega)),
      Nat.mod_eq_of_lt hy]
  have hbit : (Bytes.toNatLittle P.bytes).testBit 255 = decide (P.x.val % 2 = 1) := by
    rw [hn, Nat.testBit_eq_decide_div_mod_eq]
    have hdiv : (P.y.val + Nat.pow 2 255 * (P.x.val % 2)) / 2 ^ 255 = P.x.val % 2 := by
      rw [← Nat.pow_eq, Nat.add_mul_div_left _ _ (by norm_num), Nat.div_eq_of_lt (by omega),
        Nat.zero_add]
    rw [hdiv, Nat.mod_mod]
  refine ⟨⟨P.x.val, P.y.val, 1, mul P.x.val P.y.val⟩, ?_, ?_⟩
  · simp only [Point.decode?]
    rw [hlow, hbit, recoverX?_eq, Option.map_some]
  · constructor
    · simp
    · simp
    · simp
    · simp
    · exact ZMod.val_lt P.x
    · exact mul_lt _ _

/-- A point in extended coordinates stands for one point of the curve. -/
theorem Point.Represents.unique {p : Point} {P Q : CurvePoint} (hP : p.Represents P)
    (hQ : p.Represents Q) : P = Q := by
  ext
  · exact mul_right_cancel₀ hP.z_ne (hP.x_eq.symm.trans hQ.x_eq)
  · exact mul_right_cancel₀ hP.z_ne (hP.y_eq.symm.trans hQ.y_eq)

theorem CurvePoint.bytes_injective {P Q : CurvePoint} (h : P.bytes = Q.bytes) : P = Q := by
  obtain ⟨p, hp, hP⟩ := Point.decode?_bytes P
  obtain ⟨q, hq, hQ⟩ := Point.decode?_bytes Q
  rw [h, hq, Option.some.injEq] at hp
  subst hp
  exact hP.unique hQ

end WalletCredentials.Edwards

import Mathlib.Data.List.TakeWhile
import Mathlib.Data.Nat.Digits.Lemmas
import WalletCredentials.Encoding.Base58
import WalletCredentials.Proofs.Result

/-!
# Base58, back and forth

Writing and reading in base 58 are one change of base, taken in the two directions: zeros at
the start stay as they are, and the digits after them write the same number. Taken twice, the
change comes back to where it started, so that bytes and texts correspond one to one.
-/

namespace WalletCredentials.Base58

/-! ## The change of base -/

/-- The digits in base `b` of what is written in base `a`, the highest digit first. -/
def recode (a b : Nat) (vs : List Nat) : List Nat :=
  (vs.takeWhile (· = 0)) ++ (Nat.digits b (Nat.ofDigits a (vs.dropWhile (· = 0)).reverse)).reverse

theorem takeWhile_zeros {zeros rest : List Nat} (hz : ∀ v ∈ zeros, v = 0)
    (hr : rest.head? ≠ some 0) : (zeros ++ rest).takeWhile (· = 0) = zeros := by
  have hrest : rest.takeWhile (· = 0) = [] := by
    cases rest with
    | nil => rfl
    | cons v rest => simpa using hr
  rw [List.takeWhile_append_of_pos (by simpa using hz), hrest, List.append_nil]

theorem dropWhile_zeros {zeros rest : List Nat} (hz : ∀ v ∈ zeros, v = 0)
    (hr : rest.head? ≠ some 0) : (zeros ++ rest).dropWhile (· = 0) = rest := by
  rw [List.dropWhile_append_of_pos (by simpa using hz)]
  cases rest with
  | nil => rfl
  | cons v rest => simpa using hr

theorem head?_digits_reverse (b n : Nat) : (Nat.digits b n).reverse.head? ≠ some 0 := by
  rw [List.head?_reverse]
  by_cases hn : n = 0
  · simp [hn]
  · have hne : Nat.digits b n ≠ [] := Nat.digits_ne_nil_iff_ne_zero.mpr hn
    rw [List.getLast?_eq_some_getLast hne, Ne, Option.some.injEq]
    exact Nat.getLast_digit_ne_zero b hn

theorem head?_dropWhile (vs : List Nat) : (vs.dropWhile (· = 0)).head? ≠ some 0 := by
  intro h
  have hnot := List.head?_dropWhile_not (· = 0) vs
  rw [h] at hnot
  simp at hnot

theorem eq_zero_of_mem_takeWhile {vs : List Nat} {v : Nat} (h : v ∈ vs.takeWhile (· = 0)) :
    v = 0 := by
  simpa using List.mem_takeWhile_imp h

/-- The digits of a number that digits without zeros in front write are those digits. -/
theorem digits_ofDigits_reverse {b : Nat} (hb : 1 < b) {vs : List Nat} (h : ∀ v ∈ vs, v < b)
    (hhead : vs.head? ≠ some 0) : (Nat.digits b (Nat.ofDigits b vs.reverse)).reverse = vs := by
  rw [Nat.digits_ofDigits b hb _ (by simpa using h), List.reverse_reverse]
  intro hne h0
  apply hhead
  rw [← List.getLast?_reverse, List.getLast?_eq_some_getLast hne, h0]

theorem recode_recode {a b : Nat} (ha : 1 < a) {vs : List Nat} (h : ∀ v ∈ vs, v < a) :
    recode b a (recode a b vs) = vs := by
  have hz : ∀ v ∈ vs.takeWhile (· = 0), v = 0 := fun v => eq_zero_of_mem_takeWhile
  have hdrop : ∀ v ∈ vs.dropWhile (· = 0), v < a := fun v hv =>
    h v ((List.dropWhile_suffix _).subset hv)
  rw [recode, recode, takeWhile_zeros hz (head?_digits_reverse _ _),
    dropWhile_zeros hz (head?_digits_reverse _ _), List.reverse_reverse, Nat.ofDigits_digits,
    digits_ofDigits_reverse ha hdrop (head?_dropWhile vs), List.takeWhile_append_dropWhile]

theorem lt_of_mem_recode {a b v : Nat} (hb : 1 < b) {vs : List Nat} (h : v ∈ recode a b vs) :
    v < b := by
  rcases List.mem_append.mp h with h | h
  · rw [eq_zero_of_mem_takeWhile h]
    exact Nat.zero_lt_of_lt hb
  · exact Nat.digits_lt_base hb (List.mem_reverse.mp h)

/-! ## Digits and bytes -/

/-- What writes the lowest digits of a number without zeros in front writes all its digits, if
there are not more of them. -/
theorem eq_map_digits {α : Type} {b : Nat} {write : Nat → Nat → List α} {digit : Nat → α}
    (hb : 1 < b) (hzero : ∀ n, write 0 n = [])
    (hsucc : ∀ count n,
      write (count + 1) n = if n = 0 then [] else write count (n / b) ++ [digit (n % b)])
    {count n : Nat} (h : n < b ^ count) : write count n = (Nat.digits b n).reverse.map digit := by
  induction count generalizing n with
  | zero =>
      have hn : n = 0 := by simpa using h
      simp [hzero, hn]
  | succ count ih =>
      rw [hsucc]
      by_cases hn : n = 0
      · simp [hn]
      · have hdiv : n / b < b ^ count := by
          rw [Nat.div_lt_iff_lt_mul (Nat.zero_lt_of_lt hb), ← pow_succ]
          exact h
        rw [if_neg hn, ih hdiv, Nat.digits_def' hb (Nat.pos_of_ne_zero hn)]
        simp

theorem digitsOf_eq {count n : Nat} (h : n < 58 ^ count) :
    digitsOf count n = (Nat.digits 58 n).reverse.map digit :=
  eq_map_digits (by decide) (fun _ => rfl) (fun _ _ => rfl) h

theorem bytesOf_eq {count n : Nat} (h : n < 256 ^ count) :
    bytesOf count n = (Nat.digits 256 n).reverse.map UInt8.ofNat := by
  refine eq_map_digits (by decide) (fun _ => rfl) (fun count n => ?_) h
  have hmod : UInt8.ofNat (n % 256) = UInt8.ofNat n := by
    apply UInt8.toNat.inj
    simp
  rw [bytesOf, hmod]

theorem foldl_eq_ofDigits (b : Nat) (vs : List Nat) (n : Nat) :
    vs.foldl (fun n v => b * n + v) n = Nat.ofDigits b (vs.reverse ++ [n]) := by
  induction vs generalizing n with
  | nil => simp
  | cons v vs ih =>
      rw [List.foldl_cons, ih, List.reverse_cons, List.append_assoc, Nat.ofDigits_append,
        Nat.ofDigits_append]
      simp only [List.singleton_append, Nat.ofDigits_cons, Nat.ofDigits_nil, mul_zero, add_zero]
      ring

theorem toNatBig_eq (bytes : List UInt8) :
    Bytes.toNatBig bytes = Nat.ofDigits 256 (bytes.map UInt8.toNat).reverse := by
  have h := foldl_eq_ofDigits 256 (bytes.map UInt8.toNat) 0
  rw [Nat.ofDigits_append_zero, List.foldl_map] at h
  exact h

/-- Writing in base 58 changes the base from 256. -/
theorem digits_eq (bytes : List UInt8) :
    digits bytes = (recode 256 58 (bytes.map UInt8.toNat)).map digit := by
  have hbyte : (fun b : UInt8 => decide (b.toNat = 0)) = fun b => decide (b = 0) := by
    funext b
    simp [← UInt8.toNat_inj]
  have hbound : Bytes.toNatBig (bytes.dropWhile (· = 0)) <
      58 ^ (2 * (bytes.dropWhile (· = 0)).length) := by
    rw [toNatBig_eq, pow_mul]
    refine lt_of_lt_of_le (Nat.ofDigits_lt_base_pow_length (by decide) ?_) ?_
    · intro v hv
      simp only [List.mem_reverse, List.mem_map] at hv
      obtain ⟨b, -, rfl⟩ := hv
      exact b.toNat_lt
    · simpa using Nat.pow_le_pow_left (show 256 ≤ 58 ^ 2 by decide) _
  have htake : (bytes.takeWhile (· = 0)).map UInt8.toNat =
      List.replicate (bytes.takeWhile (· = 0)).length 0 := by
    refine List.map_eq_replicate_iff.mpr fun b hb => ?_
    have hb0 : b = 0 := by simpa using List.mem_takeWhile_imp hb
    rw [hb0, UInt8.toNat_zero]
  rw [digits, recode, List.takeWhile_map, List.dropWhile_map]
  simp only [Function.comp_def, hbyte]
  rw [htake, digitsOf_eq hbound, toNatBig_eq, List.map_append, List.map_replicate]
  rfl

theorem digitValue?_digit {n : Nat} (h : n < 58) : digitValue? (digit n) = some n := by
  have hall : ∀ n ∈ List.range 58, digitValue? (digit n) = some n := by decide
  exact hall n (List.mem_range.mpr h)

theorem digit_ascii {n : Nat} (h : n < 58) : (digit n).toNat < 128 := by
  have hall : ∀ n ∈ List.range 58, (digit n).toNat < 128 := by decide
  exact hall n (List.mem_range.mpr h)

theorem digit_of_digitValue? {c : Char} {v : Nat} (h : digitValue? c = some v) :
    v < 58 ∧ digit v = c := by
  rw [digitValue?, List.findIdx?_eq_some_iff_getElem] at h
  obtain ⟨hv, hc, -⟩ := h
  have hlen : alphabet.length = 58 := by decide
  refine ⟨hlen ▸ hv, ?_⟩
  rw [digit, List.getD_eq_getElem?_getD, List.getElem?_eq_getElem hv, Option.getD_some]
  exact eq_of_beq hc

/-- Characters have values exactly if they are digits. -/
theorem values_eq_ok_iff {index : Nat} {cs : List Char} {vs : List Nat} :
    values index cs = .ok vs ↔ cs = vs.map digit ∧ ∀ v ∈ vs, v < 58 := by
  induction cs generalizing index vs with
  | nil =>
      rw [values, Except.ok.injEq]
      constructor
      · rintro rfl
        simp
      · rintro ⟨h, -⟩
        simpa using h
  | cons c rest ih =>
      rw [values]
      constructor
      · intro h
        split at h
        · cases h
        · split at h
          · cases h
          · rename_i v hv
            obtain ⟨hlt, rfl⟩ := digit_of_digitValue? hv
            cases hrest : values (index + 1) rest with
            | error e =>
                rw [hrest] at h
                cases h
            | ok ws =>
                rw [hrest] at h
                cases h
                obtain ⟨rfl, hws⟩ := ih.mp hrest
                exact ⟨rfl, List.forall_mem_cons.mpr ⟨hlt, hws⟩⟩
      · rintro ⟨h, hvs⟩
        cases vs with
        | nil => cases h
        | cons v ws =>
            obtain ⟨rfl, rfl⟩ := List.cons_eq_cons.mp h
            obtain ⟨hv, hws⟩ := List.forall_mem_cons.mp hvs
            have hlt := digit_ascii hv
            rw [if_neg (by omega), digitValue?_digit hv, ih.mpr ⟨rfl, hws⟩]
            rfl

theorem decode_ofList_map_digit {vs : List Nat} (h : ∀ v ∈ vs, v < 58) :
    decode (String.ofList (vs.map digit)) = .ok ((recode 58 256 vs).map UInt8.ofNat) := by
  have htake : (vs.takeWhile (· = 0)).map UInt8.ofNat =
      List.replicate (vs.takeWhile (· = 0)).length 0 := by
    refine List.map_eq_replicate_iff.mpr fun v hv => ?_
    rw [eq_zero_of_mem_takeWhile hv]
    rfl
  have hfold := foldl_eq_ofDigits 58 (vs.dropWhile (· = 0)) 0
  rw [Nat.ofDigits_append_zero] at hfold
  have hbound : Nat.ofDigits 58 (vs.dropWhile (· = 0)).reverse <
      256 ^ (vs.dropWhile (· = 0)).length := by
    refine lt_of_lt_of_le (Nat.ofDigits_lt_base_pow_length (by decide) ?_) ?_
    · intro v hv
      exact h v ((List.dropWhile_suffix _).subset (List.mem_reverse.mp hv))
    · simpa using Nat.pow_le_pow_left (show 58 ≤ 256 by decide) _
  rw [decode, String.toList_ofList, values_eq_ok_iff.mpr ⟨rfl, h⟩, ok_bind]
  dsimp only
  rw [hfold, bytesOf_eq hbound, recode, List.map_append, htake]
  rfl

theorem toNat_lt_of_mem_map {bytes : List UInt8} : ∀ v ∈ bytes.map UInt8.toNat, v < 256 := by
  intro v hv
  obtain ⟨b, -, rfl⟩ := List.mem_map.mp hv
  exact b.toNat_lt

/-- Reading the text of bytes gives the bytes. -/
@[simp] theorem decode_encode (bytes : List UInt8) : decode (encode bytes) = .ok bytes := by
  rw [encode, digits_eq, decode_ofList_map_digit fun v => lt_of_mem_recode (by decide),
    recode_recode (by decide) toNat_lt_of_mem_map, List.map_map]
  simp [Function.comp_def]

theorem mem_digits {c : Char} {bytes : List UInt8} (h : c ∈ digits bytes) :
    ∃ n < 58, digit n = c := by
  rw [digits_eq] at h
  obtain ⟨n, hn, rfl⟩ := List.mem_map.mp h
  exact ⟨n, lt_of_mem_recode (by decide) hn, rfl⟩

/-- A text in base 58 holds digits only. -/
theorem notMem_encode {c : Char} (h : ∀ n < 58, digit n ≠ c) (bytes : List UInt8) :
    c ∉ (encode bytes).toList := by
  intro hmem
  rw [encode, String.toList_ofList] at hmem
  obtain ⟨n, hn, hc⟩ := mem_digits hmem
  exact h n hn hc

/-- A text that is read is the text of the bytes that it is read as. -/
theorem encode_of_decode {text : String} {bytes : List UInt8} (h : decode text = .ok bytes) :
    encode bytes = text := by
  obtain ⟨vs, hvs, -⟩ := bind_eq_ok_iff.mp h
  obtain ⟨htext, hlt⟩ := values_eq_ok_iff.mp hvs
  rw [← String.ofList_toList (s := text), htext, decode_ofList_map_digit hlt,
    Except.ok.injEq] at h
  have hbytes : bytes.map UInt8.toNat = recode 58 256 vs := by
    rw [← h, List.map_map]
    conv_rhs => rw [← List.map_id (recode 58 256 vs)]
    refine List.map_congr_left fun v hv => ?_
    simpa using Nat.mod_eq_of_lt (lt_of_mem_recode (by decide) hv)
  rw [encode, digits_eq, hbytes, recode_recode (by decide) hlt, ← htext, String.ofList_toList]

end WalletCredentials.Base58

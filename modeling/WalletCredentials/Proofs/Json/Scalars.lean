import Mathlib.Tactic.Common
import WalletCredentials.Json.Printer
import WalletCredentials.Json.Reader

/-!
# Reading back strings and numbers

What the printer writes for a string or for a whole number of 64 bits is read as it, whatever
follows a string and whatever does not go on with a number.
-/

namespace WalletCredentials

namespace Json

/-! ## Strings -/

/-- A control character is read from its four digits. -/
theorem readString_control {n : Nat} (h : n < 32) (rest : List Char) :
    readString .plain
        ('\\' :: 'u' :: '0' :: '0' :: Hex.digit (n / 16) :: Hex.digit (n % 16) :: rest) =
      (readString .plain rest).map fun (s, r) => (Char.ofNat n :: s, r) := by
  have hhigh := Hex.digitValue?_digit (show n / 16 < 16 by omega)
  have hlow := Hex.digitValue?_digit (show n % 16 < 16 by omega)
  have hzero : Hex.digitValue? '0' = some 0 := by decide
  have hvalue : 16 * (16 * (16 * (16 * 0 + 0) + 0) + n / 16) + n % 16 = n := by omega
  have hunit : unit16 none n = .character (Char.ofNat n) := by
    rw [unit16, if_neg (by omega), if_neg (by omega)]
  simp only [readString, hhigh, hlow, hzero, hvalue, hunit]
  rfl

/-- The characters that stand for a character are read as it. -/
theorem readString_escape (c : Char) (rest : List Char) :
    readString .plain (escape c ++ rest) =
      (readString .plain rest).map fun (s, r) => (c :: s, r) := by
  rw [escape]
  iterate 7
    split
    · rename_i h
      subst h
      rfl
  split
  · rename_i hlt
    have hcontrol := readString_control hlt rest
    rw [Char.ofNat_toNat] at hcontrol
    exact hcontrol
  · rename_i hquote hbackslash _ _ _ _ _ hlt
    rw [List.singleton_append, readString, if_neg hquote, if_neg hbackslash, if_neg hlt]

/-- The characters of a string are read as it up to the closing quote. -/
theorem readString_flatMap (cs rest : List Char) :
    readString .plain (cs.flatMap escape ++ '"' :: rest) = some (cs, rest) := by
  induction cs with
  | nil => rfl
  | cons c cs ih =>
      rw [List.flatMap_cons, List.append_assoc, readString_escape, ih, Option.map_some]

theorem quote_append (s : String) (rest : List Char) :
    quote s ++ rest = '"' :: (s.toList.flatMap escape ++ '"' :: rest) := by
  simp [quote]

/-! ## Numbers -/

/-- Tells that a text does not go on with a number: it ends, or a mark follows. -/
def Delimited (rest : List Char) : Prop := ∀ c ∈ rest.head?, c = ',' ∨ c = ']' ∨ c = '}'

/-- Tells that what the printer writes for a number is read as it, before a mark. -/
def Number.ReadsBack (style : Notation) (n : Number) : Prop :=
  ∀ rest, Delimited rest → readNumber (numberChars style n ++ rest) = some (n, rest)

theorem isDigit_of_mem_toDigits {n : Nat} {c : Char} (h : c ∈ Nat.toDigits 10 n) :
    Text.isDigit c = true := by
  obtain ⟨hlow, hhigh⟩ :=
    Char.isDigit_iff_toNat.mp (Nat.isDigit_of_mem_toDigits (by decide) (by decide) h)
  rw [Text.isDigit, Bool.and_eq_true]
  exact ⟨decide_eq_true hlow, decide_eq_true hhigh⟩

theorem not_isDigit_of_delimited {rest : List Char} (h : Delimited rest) :
    ∀ c ∈ rest.head?, Text.isDigit c = false := by
  intro c hc
  rcases h c hc with rfl | rfl | rfl <;> decide

theorem readDigits_append {ds rest : List Char} (hne : ds ≠ [])
    (hds : ∀ d ∈ ds, Text.isDigit d = true) (hrest : ∀ c ∈ rest.head?, Text.isDigit c = false) :
    readDigits (ds ++ rest) = some (ds, rest) := by
  have htake : (ds ++ rest).takeWhile Text.isDigit = ds := by
    rw [List.takeWhile_append_of_pos hds]
    cases rest with
    | nil => simp
    | cons c rest => simp [hrest c rfl]
  have hdrop : (ds ++ rest).dropWhile Text.isDigit = rest := by
    rw [List.dropWhile_append_of_pos hds]
    cases rest with
    | nil => rfl
    | cons c rest => simp [hrest c rfl]
  rw [readDigits, htake, hdrop]
  cases ds with
  | nil => exact absurd rfl hne
  | cons d ds => rfl

theorem number_toDigits (n : Nat) : Text.number (Nat.toDigits 10 n) = n := by
  have h := Nat.ofDigitChars_ten_toDigits (n := n)
  rwa [Nat.ofDigitChars_eq_foldl] at h

/-- Only zero is written with a zero in front. -/
theorem eq_zero_of_head?_toDigits {n : Nat} (h : (Nat.toDigits 10 n).head? = some '0') :
    n = 0 := by
  induction n using Nat.strongRecOn with
  | ind n ih =>
      rw [Nat.toDigits_eq_if (by decide)] at h
      split at h
      · rename_i hlt
        have hall : ∀ n ∈ List.range 10, Nat.digitChar n = '0' → n = 0 := by decide
        exact hall n (List.mem_range.mpr hlt) (Option.some.inj h)
      · rename_i hge
        obtain ⟨c, hc⟩ : ∃ c, (Nat.toDigits 10 (n / 10)).head? = some c :=
          Option.ne_none_iff_exists'.mp (by simp)
        rw [List.head?_append, hc, Option.some_or] at h
        have hzero := ih (n / 10) (by omega) (hc.trans h)
        omega

theorem readFraction_of_delimited {rest : List Char} (h : Delimited rest) :
    readFraction rest = some ([], rest) := by
  cases rest with
  | nil => rfl
  | cons c rest => rcases h c rfl with rfl | rfl | rfl <;> rfl

theorem readExponent_of_delimited {rest : List Char} (h : Delimited rest) :
    readExponent rest = some (none, rest) := by
  cases rest with
  | nil => rfl
  | cons c rest => rcases h c rfl with rfl | rfl | rfl <;> rfl

/-- The digits of a natural number are read as a numeral without a fraction. -/
theorem readNumeralAfterSign_toDigits (negative : Bool) (n : Nat) {rest : List Char}
    (hrest : Delimited rest) :
    readNumeralAfterSign negative (Nat.toDigits 10 n ++ rest) =
      some (⟨negative, Nat.toDigits 10 n, [], none⟩, rest) := by
  have hdigits := readDigits_append Nat.toDigits_ne_nil
    (fun _ => isDigit_of_mem_toDigits (n := n)) (not_isDigit_of_delimited hrest)
  have hlead : ¬((Nat.toDigits 10 n).head? = some '0' ∧ (Nat.toDigits 10 n).length ≠ 1) := by
    rintro ⟨hhead, hlength⟩
    rw [eq_zero_of_head?_toDigits hhead] at hlength
    exact hlength rfl
  simp only [readNumeralAfterSign, hdigits, Option.bind_eq_bind, Option.bind_some, if_neg hlead,
    readFraction_of_delimited hrest, readExponent_of_delimited hrest]
  rfl

/-- They do not begin with a sign. -/
theorem readNumeral_toDigits (n : Nat) {rest : List Char} (hrest : Delimited rest) :
    readNumeral (Nat.toDigits 10 n ++ rest) =
      some (⟨false, Nat.toDigits 10 n, [], none⟩, rest) := by
  obtain ⟨c, tail, hcons⟩ := List.exists_cons_of_ne_nil (Nat.toDigits_ne_nil (n := n))
  have hdigit : Text.isDigit c = true := isDigit_of_mem_toDigits (hcons ▸ List.mem_cons_self)
  have hread := readNumeralAfterSign_toDigits false n hrest
  rw [hcons, List.cons_append] at hread ⊢
  rw [readNumeral.eq_def]
  split
  · rename_i heq
    rw [(List.cons_eq_cons.mp heq).1] at hdigit
    cases hdigit
  · exact hread

/-- The numeral of a natural number has the value that it states with its sign, if 64 bits hold
it. -/
theorem value?_toDigits {negative : Bool} {k : Nat} {n : Int}
    (hn : (if negative then -(k : Int) else k) = n)
    (h : if negative then 0 < k ∧ k ≤ UInt64.size / 2 else k < UInt64.size) :
    Numeral.value? ⟨negative, Nat.toDigits 10 k, [], none⟩ = some (.whole n) := by
  simp only [Numeral.value?, number_toDigits]
  rw [if_pos ⟨rfl, rfl, h⟩, hn]

/-- Whole numbers of 64 bits are read back. -/
theorem Number.readsBack_whole (style : Notation) {n : Int}
    (h : -(UInt64.size / 2 : Nat) ≤ n ∧ n < UInt64.size) : (Number.whole n).ReadsBack style := by
  intro rest hrest
  rw [numberChars, Text.ofInt]
  split
  · rename_i hneg
    have hchars : ("-" ++ toString n.natAbs).toList = '-' :: Nat.toDigits 10 n.natAbs := by
      simp [String.toList_append]
    have hvalue : Numeral.value? ⟨true, Nat.toDigits 10 n.natAbs, [], none⟩ = some (.whole n) := by
      apply value?_toDigits
      · rw [if_pos rfl]
        omega
      · rw [if_pos rfl]
        omega
    rw [hchars, readNumber, List.cons_append, readNumeral,
      readNumeralAfterSign_toDigits true n.natAbs hrest]
    simp only [Option.bind_eq_bind, Option.bind_some, hvalue]
    rfl
  · rename_i hpos
    have hchars : (toString n.natAbs).toList = Nat.toDigits 10 n.natAbs := by simp
    have hvalue : Numeral.value? ⟨false, Nat.toDigits 10 n.natAbs, [], none⟩ = some (.whole n) := by
      apply value?_toDigits
      · rw [if_neg Bool.false_ne_true]
        omega
      · rw [if_neg Bool.false_ne_true]
        omega
    rw [hchars, readNumber, readNumeral_toDigits n.natAbs hrest]
    simp only [Option.bind_eq_bind, Option.bind_some, hvalue]
    rfl

end Json

end WalletCredentials

/-!
# Decimal digits

Digits as characters, numbers written with a least number of digits, and the
digits at the start of a text.
-/

namespace WalletCredentials.Text

/-- The character of a decimal digit. -/
def digit (n : Nat) : Char := Char.ofNat (48 + n % 10)

/-- Tells whether a character is an ASCII decimal digit. -/
def isDigit (c : Char) : Bool := 48 ≤ c.toNat && c.toNat ≤ 57

/-- The value of a decimal digit. -/
def digitValue (c : Char) : Nat := c.toNat - 48

/-- The number that a run of digits writes, read on from a number that is known. -/
def numberFrom (n : Nat) (cs : List Char) : Nat :=
  cs.foldl (fun n c => 10 * n + digitValue c) n

/-- The number that a run of digits writes. -/
def number (cs : List Char) : Nat := numberFrom 0 cs

/-- The lowest `width` decimal digits of a number. -/
def digitsOf : (width : Nat) → Nat → List Char
  | 0, _ => []
  | width + 1, n => digitsOf width (n / 10) ++ [digit n]

/-- The decimal digits of a number, with zeros in front where it is shorter than `width`. -/
def padded (width n : Nat) : List Char :=
  let cs := (toString n).toList
  List.replicate (width - cs.length) '0' ++ cs

/-- The text of an integer, with a sign where it is negative. -/
def ofInt (n : Int) : String :=
  if n < 0 then "-" ++ toString n.natAbs else toString n.natAbs

theorem isDigit_digit (n : Nat) : isDigit (digit n) = true := by
  have : ∀ k ∈ List.range 10, isDigit (Char.ofNat (48 + k)) = true := by decide
  exact this (n % 10) (List.mem_range.mpr (Nat.mod_lt n (by decide)))

@[simp] theorem digitValue_digit (n : Nat) : digitValue (digit n) = n % 10 := by
  have : ∀ k ∈ List.range 10, digitValue (Char.ofNat (48 + k)) = k := by decide
  exact this (n % 10) (List.mem_range.mpr (Nat.mod_lt n (by decide)))

@[simp] theorem length_digitsOf (width n : Nat) : (digitsOf width n).length = width := by
  induction width generalizing n with
  | zero => rfl
  | succ width ih => simp [digitsOf, ih]

/-- Reading the digits of a number gives the number, as far as they reach. -/
theorem number_digitsOf (width n : Nat) : number (digitsOf width n) = n % Nat.pow 10 width := by
  induction width generalizing n with
  | zero => simp [digitsOf, number, numberFrom, Nat.mod_one]
  | succ width ih =>
      have h := ih (n / 10)
      simp only [number, numberFrom] at h ⊢
      rw [digitsOf, List.foldl_append, h]
      simp only [List.foldl_cons, List.foldl_nil, digitValue_digit]
      rw [Nat.pow_eq, Nat.pow_eq, Nat.pow_succ, Nat.mul_comm _ 10, Nat.mod_mul]
      omega

end WalletCredentials.Text

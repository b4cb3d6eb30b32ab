/-!
# Hexadecimal text

Bytes are written with two lower-case digits each, the high half first. Reading
accepts either letter case.
-/

namespace WalletCredentials.Hex

/-- The lower-case digit of a value below sixteen. -/
def digit (n : Nat) : Char :=
  if n < 10 then Char.ofNat (48 + n) else Char.ofNat (87 + n)

/-- The upper-case digit of a value below sixteen. -/
def upperDigit (n : Nat) : Char :=
  if n < 10 then Char.ofNat (48 + n) else Char.ofNat (55 + n)

/-- The value of a hexadecimal digit of either letter case. -/
def digitValue? (c : Char) : Option Nat :=
  let n := c.toNat
  if 48 ≤ n ∧ n ≤ 57 then some (n - 48)
  else if 97 ≤ n ∧ n ≤ 102 then some (n - 87)
  else if 65 ≤ n ∧ n ≤ 70 then some (n - 55)
  else none

/-- The digits of bytes. -/
def digits : List UInt8 → List Char
  | [] => []
  | b :: rest => digit (b.toNat / 16) :: digit (b.toNat % 16) :: digits rest

/-- The lower-case hexadecimal text of bytes. -/
def encode (bytes : List UInt8) : String :=
  String.ofList (digits bytes)

/-- The bytes that pairs of digits stand for. -/
def ofDigits? : List Char → Option (List UInt8)
  | [] => some []
  | [_] => none
  | high :: low :: rest => do
      let h ← digitValue? high
      let l ← digitValue? low
      let tail ← ofDigits? rest
      return UInt8.ofNat (16 * h + l) :: tail

/-- The bytes of a hexadecimal text, if it is one. -/
def decode? (text : String) : Option (List UInt8) :=
  ofDigits? text.toList

theorem digitValue?_digit {n : Nat} (h : n < 16) : digitValue? (digit n) = some n := by
  have : ∀ n ∈ List.range 16, digitValue? (digit n) = some n := by decide
  exact this n (List.mem_range.mpr h)

theorem toNat_upperDigit {n : Nat} (h : n < 16) :
    (upperDigit n).toNat = if n < 10 then 48 + n else 55 + n := by
  have : ∀ n ∈ List.range 16, (upperDigit n).toNat = if n < 10 then 48 + n else 55 + n := by
    decide
  exact this n (List.mem_range.mpr h)

theorem digitValue?_upperDigit {n : Nat} (h : n < 16) : digitValue? (upperDigit n) = some n := by
  have : ∀ n ∈ List.range 16, digitValue? (upperDigit n) = some n := by decide
  exact this n (List.mem_range.mpr h)

@[simp] theorem ofDigits?_digits (bytes : List UInt8) : ofDigits? (digits bytes) = some bytes := by
  induction bytes with
  | nil => rfl
  | cons b rest ih =>
      have hb : b.toNat < 256 := b.toNat_lt
      have hv : UInt8.ofNat (16 * (b.toNat / 16) + b.toNat % 16) = b := by
        rw [Nat.div_add_mod, UInt8.ofNat_toNat]
      simp only [digits, ofDigits?, ih, digitValue?_digit (show b.toNat / 16 < 16 by omega),
        digitValue?_digit (show b.toNat % 16 < 16 by omega), Option.bind_eq_bind,
        Option.bind_some, hv]
      rfl

/-- Reading the text of bytes gives the bytes. -/
@[simp] theorem decode?_encode (bytes : List UInt8) : decode? (encode bytes) = some bytes := by
  simp [decode?, encode]

@[simp] theorem length_digits (bytes : List UInt8) :
    (digits bytes).length = 2 * bytes.length := by
  induction bytes with
  | nil => rfl
  | cons b rest ih => simp [digits, ih]; omega

end WalletCredentials.Hex

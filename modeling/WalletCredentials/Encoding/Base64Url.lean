/-!
# Base64url

Bytes as text of the URL-safe alphabet without padding. Reading is strict: every
text stands for at most one list of bytes and is the text of those bytes, since the
bits that the last character holds beyond them have to be zero.
-/

namespace WalletCredentials.Base64Url

/-- The character of a value below 64. -/
def digit (n : Nat) : Char :=
  if n < 26 then Char.ofNat (65 + n)
  else if n < 52 then Char.ofNat (71 + n)
  else if n < 62 then Char.ofNat (n - 4)
  else if n = 62 then '-'
  else '_'

/-- The value of a character of the alphabet. -/
def digitValue? (c : Char) : Option Nat :=
  let n := c.toNat
  if 65 ≤ n ∧ n ≤ 90 then some (n - 65)
  else if 97 ≤ n ∧ n ≤ 122 then some (n - 71)
  else if 48 ≤ n ∧ n ≤ 57 then some (n + 4)
  else if c = '-' then some 62
  else if c = '_' then some 63
  else none

/-- The characters of bytes: four for every three, and two or three for the rest. -/
def digits : List UInt8 → List Char
  | [] => []
  | [a] =>
      let n := a.toNat * 16
      [digit (n / 64), digit (n % 64)]
  | [a, b] =>
      let n := (a.toNat * 256 + b.toNat) * 4
      [digit (n / 4096), digit (n / 64 % 64), digit (n % 64)]
  | a :: b :: c :: rest =>
      let n := (a.toNat * 256 + b.toNat) * 256 + c.toNat
      digit (n / 262144) :: digit (n / 4096 % 64) :: digit (n / 64 % 64) :: digit (n % 64) ::
        digits rest

/-- The text of bytes. -/
def encode (bytes : List UInt8) : String := String.ofList (digits bytes)

/-- The bytes of characters, if they are the characters of bytes. -/
def ofDigits? : List Char → Option (List UInt8)
  | [] => some []
  | [_] => none
  | [a, b] => do
      let n := (← digitValue? a) * 64 + (← digitValue? b)
      if n % 16 = 0 then some [UInt8.ofNat (n / 16)] else none
  | [a, b, c] => do
      let n := ((← digitValue? a) * 64 + (← digitValue? b)) * 64 + (← digitValue? c)
      if n % 4 = 0 then some [UInt8.ofNat (n / 1024), UInt8.ofNat (n / 4)] else none
  | a :: b :: c :: d :: rest => do
      let n := (((← digitValue? a) * 64 + (← digitValue? b)) * 64 + (← digitValue? c)) * 64 +
        (← digitValue? d)
      let tail ← ofDigits? rest
      some (UInt8.ofNat (n / 65536) :: UInt8.ofNat (n / 256) :: UInt8.ofNat n :: tail)

/-- The bytes of a text, if it is the text of bytes. -/
def decode? (text : String) : Option (List UInt8) := ofDigits? text.toList

end WalletCredentials.Base64Url

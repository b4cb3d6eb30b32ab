import WalletCredentials.Encoding.Hex
import WalletCredentials.Encoding.Utf8

/-!
# Percent-encoding

Characters that may not stand in an address are written as their UTF-8 bytes, each as
a percent sign and two upper-case hexadecimal digits.
-/

namespace WalletCredentials.Percent

/-- The three characters of an escaped byte. -/
def escape (byte : UInt8) : List Char :=
  ['%', Hex.upperDigit (byte.toNat / 16), Hex.upperDigit (byte.toNat % 16)]

/-- Tells whether a character is a control of ASCII or no ASCII at all. -/
def isControlOrWide (c : Char) : Bool := c.toNat < 0x20 || 0x7F ≤ c.toNat

/-- The characters with those escaped that are controls, outside ASCII or in a set. -/
def encode (reserved : List Char) (cs : List Char) : List Char :=
  cs.flatMap fun c =>
    if isControlOrWide c || reserved.contains c then (String.utf8EncodeChar c).flatMap escape
    else [c]

/-- The bytes with escaped bytes in place of their escapes. A percent sign that starts
no escape stays. -/
def decode : List UInt8 → List UInt8
  | [] => []
  | [a] => [a]
  | [a, b] => [a, b]
  | a :: b :: c :: rest =>
      if a = 0x25 then
        match Hex.digitValue? (Char.ofUInt8 b), Hex.digitValue? (Char.ofUInt8 c) with
        | some high, some low => UInt8.ofNat (16 * high + low) :: decode rest
        | _, _ => a :: decode (b :: c :: rest)
      else a :: decode (b :: c :: rest)

end WalletCredentials.Percent

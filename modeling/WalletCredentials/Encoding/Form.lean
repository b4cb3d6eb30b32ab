import WalletCredentials.Encoding.Percent
import WalletCredentials.Text.Split

/-!
# Forms

Names and values as they stand in the query of an address or in the body of a form:
escaped, a space as a plus sign, with `=` between a name and its value and `&` between
two pairs. Reading takes any text: what is no pair is a name without a value.
-/

namespace WalletCredentials.Form

/-- Tells whether a byte stands for itself: a letter, a digit, or one of four signs. -/
def isPlain (byte : UInt8) : Bool :=
  let n := byte.toNat
  (48 ≤ n && n ≤ 57) || (65 ≤ n && n ≤ 90) || (97 ≤ n && n ≤ 122) || n = 0x2A || n = 0x2D ||
    n = 0x2E || n = 0x5F

/-- The characters of a byte. -/
def encodeByte (byte : UInt8) : List Char :=
  if isPlain byte then [Char.ofUInt8 byte]
  else if byte = 0x20 then ['+']
  else Percent.escape byte

/-- The characters of a name or a value. -/
def encodePart (text : String) : List Char := (Utf8.encode text).flatMap encodeByte

/-- The characters of a pair. -/
def encodePair (pair : String × String) : List Char :=
  encodePart pair.1 ++ '=' :: encodePart pair.2

/-- The text of pairs. -/
def encode (pairs : List (String × String)) : String :=
  "&".intercalate (pairs.map fun pair => String.ofList (encodePair pair))

/-- The name or the value that characters stand for. -/
def decodePart (cs : List Char) : String :=
  let spaced := cs.map fun c => if c = '+' then ' ' else c
  Utf8.decode (Percent.decode (Utf8.encodeChars spaced))

/-- The pair that characters stand for. -/
def decodePair (cs : List Char) : String × String :=
  let (name, value) := Text.cut '=' cs
  (decodePart name, decodePart (value.getD []))

/-- The pairs that a text stands for. Empty pieces stand for nothing. -/
def decode (text : String) : List (String × String) :=
  ((Text.pieces '&' text.toList).filter (!·.isEmpty)).map decodePair

end WalletCredentials.Form

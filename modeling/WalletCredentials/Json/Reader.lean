import WalletCredentials.Encoding.Hex
import WalletCredentials.Json.Basic
import WalletCredentials.Text.Digits

/-!
# Reading JSON

The grammar is strict: no blanks but the four of the standard, no lone surrogates,
no raw control characters, no leading zeros, and at most 127 arrays and objects
inside one another. A number that is too large for a double is refused.

## Implementation notes

Strings are read by a machine with one state per position inside an escape, so that
reading recurses on the text. Values have fuel, two units for each character, which
suffices because a value and each of its parts use up a character.
-/

namespace WalletCredentials.Json

/-- Tells whether a character is a blank between tokens. -/
def isBlank (c : Char) : Bool := c = ' ' || c = '\n' || c = '\t' || c = '\r'

/-- Leaves out blanks at the start. -/
def skipBlanks (cs : List Char) : List Char := cs.dropWhile isBlank

/-- A position inside a string. -/
inductive StringState
  /-- Between characters. -/
  | plain
  /-- After a backslash. -/
  | escape
  /-- Inside a four-digit escape: the high surrogate before it, the digits left and
  the value so far. -/
  | digits (high : Option Nat) (left : Nat) (value : Nat)
  /-- After the high surrogate of a pair. -/
  | pair (high : Nat)
  /-- After the backslash of the second half of a pair. -/
  | pairEscape (high : Nat)

/-- The character of a one-letter escape. -/
def escaped? (c : Char) : Option Char :=
  if c = '"' ∨ c = '\\' ∨ c = '/' then some c
  else if c = 'b' then some (Char.ofNat 8)
  else if c = 'f' then some (Char.ofNat 12)
  else if c = 'n' then some '\n'
  else if c = 'r' then some '\r'
  else if c = 't' then some '\t'
  else none

/-- What a complete four-digit escape stands for: a character, or half of a pair. -/
inductive Unit16
  | character (c : Char)
  | high (n : Nat)
  | wrong

/-- The meaning of a sixteen-bit unit after an optional high surrogate. -/
def unit16 (high : Option Nat) (n : Nat) : Unit16 :=
  match high with
  | some h =>
      if 0xDC00 ≤ n ∧ n ≤ 0xDFFF then
        .character (Char.ofNat (0x10000 + 0x400 * (h - 0xD800) + (n - 0xDC00)))
      else .wrong
  | none =>
      if 0xD800 ≤ n ∧ n ≤ 0xDBFF then .high n
      else if 0xDC00 ≤ n ∧ n ≤ 0xDFFF then .wrong
      else .character (Char.ofNat n)

/-- Reads the characters of a string up to its closing quote. -/
def readString : StringState → List Char → Option (List Char × List Char)
  | _, [] => none
  | .plain, c :: rest =>
      if c = '"' then some ([], rest)
      else if c = '\\' then readString .escape rest
      else if c.toNat < 32 then none
      else (readString .plain rest).map fun (s, r) => (c :: s, r)
  | .escape, c :: rest =>
      if c = 'u' then readString (.digits none 4 0) rest
      else match escaped? c with
        | some e => (readString .plain rest).map fun (s, r) => (e :: s, r)
        | none => none
  | .digits high left value, c :: rest =>
      match Hex.digitValue? c with
      | none => none
      | some d =>
          if 1 < left then readString (.digits high (left - 1) (16 * value + d)) rest
          else match unit16 high (16 * value + d) with
            | .character e => (readString .plain rest).map fun (s, r) => (e :: s, r)
            | .high h => readString (.pair h) rest
            | .wrong => none
  | .pair high, c :: rest => if c = '\\' then readString (.pairEscape high) rest else none
  | .pairEscape high, c :: rest =>
      if c = 'u' then readString (.digits (some high) 4 0) rest else none

/-- A number as it is written. -/
structure Numeral where
  negative : Bool
  whole : List Char
  fraction : List Char
  /-- The exponent; a number with a point or an exponent is a double. -/
  exponent : Option Int
  deriving Repr

/-- The digits at the start of a text, at least one. -/
def readDigits (cs : List Char) : Option (List Char × List Char) :=
  match cs.takeWhile Text.isDigit with
  | [] => none
  | ds => some (ds, cs.dropWhile Text.isDigit)

/-- Reads the digits after a point, if there is one. -/
def readFraction : List Char → Option (List Char × List Char)
  | '.' :: rest => readDigits rest
  | cs => some ([], cs)

/-- Reads an exponent, if there is one. -/
def readExponent : List Char → Option (Option Int × List Char)
  | c :: rest =>
      if c = 'e' ∨ c = 'E' then
        match rest with
        | '-' :: ds => (readDigits ds).map fun (e, r) => (some (-(Text.number e : Int)), r)
        | '+' :: ds => (readDigits ds).map fun (e, r) => (some (Text.number e : Int), r)
        | ds => (readDigits ds).map fun (e, r) => (some (Text.number e : Int), r)
      else some (none, c :: rest)
  | [] => some (none, [])

/-- Reads a number that starts with a digit. -/
def readNumeralAfterSign (negative : Bool) (cs : List Char) : Option (Numeral × List Char) := do
  let (whole, rest) ← readDigits cs
  if whole.head? = some '0' ∧ whole.length ≠ 1 then none
  let (fraction, rest) ← readFraction rest
  let (exponent, rest) ← readExponent rest
  return (⟨negative, whole, fraction, exponent⟩, rest)

/-- Reads a number. -/
def readNumeral : List Char → Option (Numeral × List Char)
  | '-' :: rest => readNumeralAfterSign true rest
  | cs => readNumeralAfterSign false cs

/-- The double that a numeral writes, unless it is too large. -/
def Numeral.real? (n : Numeral) : Option Binary64 :=
  Binary64.ofDecimal? n.negative (Text.number (n.whole ++ n.fraction))
    (n.exponent.getD 0 - n.fraction.length)

/-- The number that a numeral writes. Whole numbers of 64 bits stay whole; the
negative zero is a double. -/
def Numeral.value? (n : Numeral) : Option Number :=
  let k := Text.number n.whole
  if n.fraction.isEmpty ∧ n.exponent.isNone ∧
      (if n.negative then 0 < k ∧ k ≤ UInt64.size / 2 else k < UInt64.size) then
    some (.whole (if n.negative then -(k : Int) else k))
  else n.real?.map .real

/-- Reads a number and its value. -/
def readNumber (cs : List Char) : Option (Number × List Char) := do
  let (numeral, rest) ← readNumeral cs
  let value ← numeral.value?
  return (value, rest)

/-- Reads past a character after blanks. -/
def readMark (mark : Char) (cs : List Char) : Option (List Char) :=
  match skipBlanks cs with
  | c :: rest => if c = mark then some rest else none
  | [] => none

/-- Reads a member's name and the colon after it. -/
def readName (cs : List Char) : Option (String × List Char) := do
  let rest ← readMark '"' cs
  let (name, rest) ← readString .plain rest
  let rest ← readMark ':' rest
  return (String.ofList name, rest)

/-- Reads a value that is neither an array nor an object. -/
def readScalar : List Char → Option (Json × List Char)
  | 'n' :: 'u' :: 'l' :: 'l' :: rest => some (.null, rest)
  | 't' :: 'r' :: 'u' :: 'e' :: rest => some (.bool true, rest)
  | 'f' :: 'a' :: 'l' :: 's' :: 'e' :: rest => some (.bool false, rest)
  | '"' :: rest => (readString .plain rest).map fun (s, r) => (.string (String.ofList s), r)
  | cs => (readNumber cs).map fun (n, r) => (.number n, r)

mutual

/-- Reads a value with at most `depth` containers inside one another. -/
def readValue : (fuel depth : Nat) → List Char → Option (Json × List Char)
  | 0, _, _ => none
  | fuel + 1, depth, cs =>
      match skipBlanks cs, depth with
      | '[' :: _, 0 => none
      | '{' :: _, 0 => none
      | '[' :: rest, depth + 1 =>
          match readMark ']' rest with
          | some rest => some (.array [], rest)
          | none => (readItems fuel depth rest).map fun (items, r) => (.array items, r)
      | '{' :: rest, depth + 1 =>
          match readMark '}' rest with
          | some rest => some (.object [], rest)
          | none => (readMembers fuel depth rest).map fun (ms, r) => (ofMembers ms, r)
      | cs, _ => readScalar cs

/-- Reads the items of an array up to its bracket. -/
def readItems : (fuel depth : Nat) → List Char → Option (List Json × List Char)
  | 0, _, _ => none
  | fuel + 1, depth, cs => do
      let (item, rest) ← readValue fuel depth cs
      match skipBlanks rest with
      | ']' :: rest => return ([item], rest)
      | ',' :: rest =>
          let (items, rest) ← readItems fuel depth rest
          return (item :: items, rest)
      | _ => none

/-- Reads the members of an object up to its brace, in the order of the text. -/
def readMembers : (fuel depth : Nat) → List Char → Option (List (String × Json) × List Char)
  | 0, _, _ => none
  | fuel + 1, depth, cs => do
      let (name, rest) ← readName cs
      let (value, rest) ← readValue fuel depth rest
      match skipBlanks rest with
      | '}' :: rest => return ([(name, value)], rest)
      | ',' :: rest =>
          let (members, rest) ← readMembers fuel depth rest
          return ((name, value) :: members, rest)
      | _ => none

end

/-- The number of containers that may lie inside one another. -/
def maxDepth : Nat := 127

/-- Fuel that suffices to read a text. -/
def fuelFor (cs : List Char) : Nat := 2 * cs.length + 2

/-- Reads a text that is one value of a given depth. -/
def readCharsWithin (depth : Nat) (cs : List Char) : Option Json :=
  match readValue (fuelFor cs) depth cs with
  | some (value, rest) => if (skipBlanks rest).isEmpty then some value else none
  | none => none

/-- Reads a text that is one value. -/
def read? (text : String) : Option Json := readCharsWithin maxDepth text.toList

end WalletCredentials.Json

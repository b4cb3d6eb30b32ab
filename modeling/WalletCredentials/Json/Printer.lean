import WalletCredentials.Encoding.Hex
import WalletCredentials.Json.Basic
import WalletCredentials.Number.Notation

/-!
# Writing JSON

Values are written without blanks, members in the order of the object. Strings
escape the quote, the backslash and the control characters, and nothing else.
-/

namespace WalletCredentials.Json

/-- The characters that stand for a character in a string. -/
def escape (c : Char) : List Char :=
  if c = '"' then ['\\', '"']
  else if c = '\\' then ['\\', '\\']
  else if c = Char.ofNat 8 then ['\\', 'b']
  else if c = Char.ofNat 12 then ['\\', 'f']
  else if c = '\n' then ['\\', 'n']
  else if c = '\r' then ['\\', 'r']
  else if c = '\t' then ['\\', 't']
  else if c.toNat < 32 then
    ['\\', 'u', '0', '0', Hex.digit (c.toNat / 16), Hex.digit (c.toNat % 16)]
  else [c]

/-- A string between quotes. -/
def quote (s : String) : List Char :=
  '"' :: s.toList.flatMap escape ++ ['"']

/-- Lists joined with commas. -/
def commas : List (List Char) → List Char
  | [] => []
  | [cs] => cs
  | cs :: rest => cs ++ ',' :: commas rest

/-- The characters of a number. -/
def numberChars (style : Notation) : Number → List Char
  | .whole n => (Text.ofInt n).toList
  | .real x => x.chars style

mutual

/-- The characters of a value, doubles in a given notation. -/
def chars (style : Notation) : Json → List Char
  | .null => ['n', 'u', 'l', 'l']
  | .bool true => ['t', 'r', 'u', 'e']
  | .bool false => ['f', 'a', 'l', 's', 'e']
  | .number n => numberChars style n
  | .string s => quote s
  | .array items => '[' :: commas (itemChars style items) ++ [']']
  | .object members => '{' :: commas (memberChars style members) ++ ['}']

/-- The characters of each of a list of values. -/
def itemChars (style : Notation) : List Json → List (List Char)
  | [] => []
  | v :: rest => chars style v :: itemChars style rest

/-- The characters of each of a list of members. -/
def memberChars (style : Notation) : List (String × Json) → List (List Char)
  | [] => []
  | (name, v) :: rest => (quote name ++ ':' :: chars style v) :: memberChars style rest

end

/-- The text of a value. -/
def text (value : Json) : String := String.ofList (chars .plain value)

end WalletCredentials.Json

import WalletCredentials.Encoding.Hex
import WalletCredentials.Text.Printable

/-!
# Quoted texts

Texts in messages stand between quotes. The quote, the backslash, the line controls
and the zero character have short escapes, and a character that is not printable is
shown by its code.
-/

namespace WalletCredentials.Text

/-- The hexadecimal digits of a number, without zeros in front. -/
def hexDigits (n : Nat) : List Char := Nat.toDigits 16 n

/-- The characters that show a character between quotes of a given kind. -/
def shownChar (mark c : Char) : List Char :=
  if c = mark then ['\\', c]
  else if c = '\\' then ['\\', '\\']
  else if c = '\n' then ['\\', 'n']
  else if c = '\r' then ['\\', 'r']
  else if c = '\t' then ['\\', 't']
  else if c.toNat = 0 then ['\\', '0']
  else if 32 ≤ c.toNat ∧ c.toNat < 127 then [c]
  else if isPrintable c then [c]
  else '\\' :: 'u' :: '\x7b' :: hexDigits c.toNat ++ ['\x7d']

/-- A text between quotes. -/
def quoted (text : String) : String :=
  String.ofList ('"' :: text.toList.flatMap (shownChar '"') ++ ['"'])

/-- A character between quotes. -/
def quotedChar (c : Char) : String :=
  String.ofList ('\'' :: shownChar '\'' c ++ ['\''])

/-- An optional text, quoted. -/
def quotedOption : Option String → String
  | none => "None"
  | some text => "Some(" ++ quoted text ++ ")"

end WalletCredentials.Text

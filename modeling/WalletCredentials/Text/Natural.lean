import WalletCredentials.Text.Digits

/-!
# Whole numbers in texts

Numbers in settings are read digit by digit, so that a number which grows past its
bound is noticed before a character that is no digit and comes later.
-/

namespace WalletCredentials.Text

/-- Why a text is no number within a bound. -/
inductive NumberFault
  | empty
  | digit
  | tooLarge
  deriving DecidableEq, Repr

/-- The wording of a fault. -/
def NumberFault.message : NumberFault → String
  | .empty => "cannot parse integer from empty string"
  | .digit => "invalid digit found in string"
  | .tooLarge => "number too large to fit in target type"

/-- Reads on a number of which `n` has been read. -/
def readDigits (bound : Nat) : (n : Nat) → List Char → Except NumberFault Nat
  | n, [] => .ok n
  | n, c :: rest =>
      if !isDigit c then .error .digit
      else if bound < 10 * n + digitValue c then .error .tooLarge
      else readDigits bound (10 * n + digitValue c) rest

/-- Reads the digits of a number, of which there has to be one. -/
def readSomeDigits (bound : Nat) : List Char → Except NumberFault Nat
  | [] => .error .digit
  | cs => readDigits bound 0 cs

/-- Reads a number up to a bound. -/
def readNat (bound : Nat) (text : String) : Except NumberFault Nat :=
  match text.toList with
  | [] => .error .empty
  | '+' :: rest => readSomeDigits bound rest
  | cs => readDigits bound 0 cs

/-- Reads a number of 64 bits with a sign. -/
def readInt64 (text : String) : Except NumberFault Int :=
  match text.toList with
  | '-' :: rest => (readSomeDigits (UInt64.size / 2) rest).map fun n => -(n : Int)
  | _ => (readNat (UInt64.size / 2 - 1) text).map fun n => (n : Int)

end WalletCredentials.Text

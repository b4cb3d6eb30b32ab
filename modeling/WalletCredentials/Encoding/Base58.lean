import WalletCredentials.Bytes
import WalletCredentials.Text.Quoted

/-!
# Base58

Bytes as a number in base 58, in the alphabet that leaves out the characters that
look alike. A zero byte at the start is a `1` at the start.
-/

namespace WalletCredentials.Base58

/-- The digits in increasing order of their values. -/
def alphabet : List Char :=
  "123456789ABCDEFGHJKLMNPQRSTUVWXYZabcdefghijkmnopqrstuvwxyz".toList

/-- What is wrong with a text in base 58. -/
inductive Fault
  /-- A character outside the alphabet, and the number of bytes before it. -/
  | character (c : Char) (index : Nat)
  /-- A character outside ASCII, and the number of bytes before it. -/
  | nonAscii (index : Nat)
  deriving DecidableEq, Repr

/-- The wording of a fault. -/
def Fault.message : Fault → String
  | .character c index =>
      "provided string contained invalid character " ++ Text.quotedChar c ++ " at byte " ++
        toString index
  | .nonAscii index =>
      "provided string contained non-ascii character starting at byte " ++ toString index

/-- The character of a value below 58. -/
def digit (n : Nat) : Char := alphabet.getD n '1'

/-- The value of a character of the alphabet. -/
def digitValue? (c : Char) : Option Nat := alphabet.findIdx? (· == c)

/-- The lowest `count` digits of a number in base 58, the highest first, without zeros
in front. -/
def digitsOf : (count : Nat) → Nat → List Char
  | 0, _ => []
  | count + 1, n => if n = 0 then [] else digitsOf count (n / 58) ++ [digit (n % 58)]

/-- The characters of bytes. Two digits are enough for each byte. -/
def digits (bytes : List UInt8) : List Char :=
  let zeros := bytes.takeWhile (· = 0)
  let rest := bytes.dropWhile (· = 0)
  List.replicate zeros.length '1' ++ digitsOf (2 * rest.length) (Bytes.toNatBig rest)

/-- The text of bytes. -/
def encode (bytes : List UInt8) : String := String.ofList (digits bytes)

/-- The values of characters, the first of which has `index` characters before it. -/
def values (index : Nat) : List Char → Except Fault (List Nat)
  | [] => .ok []
  | c :: rest =>
      if 128 ≤ c.toNat then .error (.nonAscii index)
      else match digitValue? c with
        | none => .error (.character c index)
        | some v => (values (index + 1) rest).map (v :: ·)

/-- The lowest `count` bytes of a number, the highest first, without zeros in front. -/
def bytesOf : (count : Nat) → Nat → List UInt8
  | 0, _ => []
  | count + 1, n => if n = 0 then [] else bytesOf count (n / 256) ++ [UInt8.ofNat n]

/-- The bytes of a text. -/
def decode (text : String) : Except Fault (List UInt8) := do
  let vs ← values 0 text.toList
  let zeros := vs.takeWhile (· = 0)
  let rest := vs.dropWhile (· = 0)
  return List.replicate zeros.length 0 ++
    bytesOf rest.length (rest.foldl (fun n v => 58 * n + v) 0)

end WalletCredentials.Base58

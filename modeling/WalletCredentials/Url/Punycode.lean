/-!
# Punycode

A label with characters outside ASCII is written with ASCII letters and digits: first
its ASCII characters, then, in increasing order of their code points, where the others
belong. Each of these is a number of variable length, which counts the code points and
places that are passed over, in digits whose weights follow the numbers seen before.
-/

namespace WalletCredentials.Punycode

/-- The letter or digit of a value below 36. -/
def digit (n : Nat) : Char := if n < 26 then Char.ofNat (97 + n) else Char.ofNat (22 + n)

/-- The value of a letter or a digit. -/
def digitValue? (c : Char) : Option Nat :=
  let n := c.toNat
  if 97 ≤ n ∧ n ≤ 122 then some (n - 97)
  else if 65 ≤ n ∧ n ≤ 90 then some (n - 65)
  else if 48 ≤ n ∧ n ≤ 57 then some (n - 22)
  else none

/-- The least value that a digit at a place has unless it is the last of its number. -/
def threshold (bias place : Nat) : Nat := max 1 (min 26 (place - bias))

theorem threshold_pos (bias place : Nat) : 1 ≤ threshold bias place := by
  unfold threshold; omega

/-- Scales a number down to the range of a bias, and counts how often. -/
def scaled (delta count : Nat) : Nat × Nat :=
  if 455 < delta then scaled (delta / 35) (count + 36) else (delta, count)
  termination_by delta
  decreasing_by exact Nat.div_lt_self (by omega) (by omega)

/-- The bias after a number, where the label has `length` characters so far. -/
def adapt (delta length : Nat) (first : Bool) : Nat :=
  let delta := if first then delta / 700 else delta / 2
  let (delta, count) := scaled (delta + delta / length) 0
  count + 36 * delta / (delta + 38)

/-- The digits of a number from a place on. -/
def encodeNumber (bias place n : Nat) : List Char :=
  let t := threshold bias place
  if n < t then [digit n]
  else digit (t + (n - t) % (36 - t)) :: encodeNumber bias (place + 36) ((n - t) / (36 - t))
  termination_by n
  decreasing_by
    have h := threshold_pos bias place
    exact Nat.lt_of_le_of_lt (Nat.div_le_self _ _) (by omega)

/-- What has been written of a label. -/
structure Writer where
  output : List Char
  /-- The code points and places that are passed over since the last number. -/
  delta : Nat
  bias : Nat
  /-- The number of characters that have been written. -/
  written : Nat

/-- Passes over a character of the label, or writes where it belongs. -/
def Writer.visit (basic point : Nat) (w : Writer) (c : Char) : Writer :=
  if c.toNat < point then { w with delta := w.delta + 1 }
  else if c.toNat = point then
    { output := w.output ++ encodeNumber w.bias 36 w.delta
      delta := 0
      bias := adapt w.delta (w.written + 1) (w.written = basic)
      written := w.written + 1 }
  else w

/-- Writes the characters of each code point in turn. -/
def Writer.run (label : List Char) (basic : Nat) : (next : Nat) → List Nat → Writer → Writer
  | _, [], w => w
  | next, point :: rest, w =>
      let w := { w with delta := w.delta + (point - next) * (w.written + 1) }
      let w := label.foldl (Writer.visit basic point) w
      Writer.run label basic (point + 1) rest { w with delta := w.delta + 1 }

/-- Puts a number into an increasing list, unless it is there. -/
def insertPoint (n : Nat) : List Nat → List Nat
  | [] => [n]
  | m :: rest =>
      if n < m then n :: m :: rest else if n = m then m :: rest else m :: insertPoint n rest

/-- The ASCII form of a label. -/
def encode (label : List Char) : List Char :=
  let basic := label.filter fun c => c.toNat < 128
  let points := (label.filter fun c => 128 ≤ c.toNat).foldl (fun ps c => insertPoint c.toNat ps) []
  let start := if basic.isEmpty then [] else basic ++ ['-']
  (Writer.run label basic.length 128 points ⟨start, 0, 72, basic.length⟩).output

/-- The number at the start of characters, and the characters after it. -/
def decodeNumber (bias : Nat) : (place weight sum : Nat) → List Char → Option (Nat × List Char)
  | _, _, _, [] => none
  | place, weight, sum, c :: rest => do
      let d ← digitValue? c
      let t := threshold bias place
      let sum := sum + d * weight
      if d < t then return (sum, rest)
      else decodeNumber bias (place + 36) (weight * (36 - t)) sum rest

/-- Tells whether a number is the code point of a character. -/
def isPoint (n : Nat) : Bool := n < 0xD800 || (0xDFFF < n && n ≤ 0x10FFFF)

/-- Puts the characters in place whose numbers follow. -/
def decodePoints : (fuel : Nat) → (point index bias : Nat) → (label : List Char) → List Char →
    Option (List Char)
  | _, _, _, _, label, [] => some label
  | 0, _, _, _, _, _ :: _ => none
  | fuel + 1, point, index, bias, label, cs =>
      match decodeNumber bias 36 1 0 cs with
      | none => none
      | some (delta, rest) =>
          let length := label.length + 1
          let place := (index + delta) % length
          let next := point + (index + delta) / length
          if isPoint next then
            decodePoints fuel next (place + 1) (adapt delta length (index = 0))
              (label.take place ++ Char.ofNat next :: label.drop place) rest
          else none

/-- The label of an ASCII form. A hyphen has ASCII characters before it. -/
def decode (cs : List Char) : Option (List Char) :=
  let tail := (cs.reverse.takeWhile (· ≠ '-')).reverse
  let basic := (cs.take (cs.length - tail.length)).dropLast
  if basic.isEmpty ∧ tail ≠ cs then none
  else if basic.all (·.toNat < 128) then decodePoints tail.length 128 0 72 basic tail
  else none

end WalletCredentials.Punycode

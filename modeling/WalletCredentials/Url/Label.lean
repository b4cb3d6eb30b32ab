import WalletCredentials.Text.Composition
import WalletCredentials.Text.Direction
import WalletCredentials.Text.Joining
import WalletCredentials.Url.Folding
import WalletCredentials.Url.Punycode

/-!
# Labels of names

The name of a host consists of labels. A label with characters outside ASCII has an ASCII
form, in which it is written in an address, and a label may be given in either form. The
given characters have been folded and composed; those that an ASCII form stands for have
to be, since otherwise one label would have two ASCII forms.
-/

namespace WalletCredentials

/-- A label of a name. -/
structure Label where
  /-- The form in an address. -/
  ascii : List Char
  /-- The characters that it stands for. -/
  wide : List Char
  deriving DecidableEq, Repr

namespace Label

/-- What an ASCII form of characters outside ASCII starts with. -/
def mark : List Char := "xn--".toList

/-- Tells whether a character is one of ASCII. -/
def isAscii (c : Char) : Bool := c.toNat < 128

/-- The characters of ASCII that may not stand in a name, beside the space and controls. -/
def reserved : List Char := "%#/:<>?@[\\]^|".toList

/-- Tells whether a character may stand in a name, as far as ASCII goes. -/
def isAllowed (c : Char) : Bool :=
  !isAscii c || (0x20 < c.toNat && c.toNat ≠ 0x7F && !reserved.contains c)

/-- The most characters of a label that is not one of ASCII. -/
def maxWide : Nat := 1000

/-- The most characters of an ASCII form behind its mark. -/
def maxEncoded : Nat := 2000

/-- The sign that keeps two letters apart which would join. -/
def nonJoiner : Char := '\u200c'

/-- The sign that joins two letters which would not. -/
def joiner : Char := '\u200d'

/-- Tells whether a sign for joining has an effect, between the characters before it in
reverse order and those after it: behind a sign that takes the vowel from a letter, or
where it keeps letters apart. -/
def isEffective (before : List Char) (sign : Char) (after : List Char) : Bool :=
  match before with
  | [] => false
  | c :: _ =>
      Text.combiningClass c = Text.viramaClass ||
        (sign = nonJoiner && Text.nextJoining Text.joinsAfter before &&
          Text.nextJoining Text.joinsBefore after)

/-- Tells whether each sign for joining among characters has an effect. Those before are
in reverse order. -/
def joinsWell : (before : List Char) → List Char → Bool
  | _, [] => true
  | before, c :: rest =>
      ((c ≠ nonJoiner && c ≠ joiner) || isEffective before c rest) && joinsWell (c :: before) rest

/-- Tells whether a label starts with a mark, which would attach to what is before the label. -/
def startsWithMark : List Char → Bool
  | [] => false
  | c :: _ => Text.isMark c

/-- Tells whether characters can be those of a label. -/
def isSound (cs : List Char) : Bool :=
  cs.all isAllowed && !startsWithMark cs && joinsWell [] cs &&
    (cs.all isAscii || cs.length ≤ maxWide)

/-- Tells whether characters need an ASCII form, and are folded and composed. -/
def isSettled (cs : List Char) : Bool :=
  !cs.all isAscii && cs.all (fun c => c ≠ '.' && Folding.fold? c ≠ some []) &&
    (Folding.foldAll? cs).map Text.composed = some cs

/-- Reads the characters of a label. -/
def read? (cs : List Char) : Option Label :=
  if mark.isPrefixOf cs then
    if !cs.all isAscii ∨ mark.length + maxEncoded < cs.length then none
    else do
      let wide ← Punycode.decode (cs.drop mark.length)
      if isSettled wide && isSound wide then some ⟨cs, wide⟩ else none
  else if !isSound cs then none
  else if cs.all isAscii then some ⟨cs, cs⟩
  else some ⟨mark ++ Punycode.encode cs, cs⟩

/-- Tells whether a label of a name that is partly written from right to left keeps its
characters together, wherever it stands: it starts with a letter, its other characters do
not go against that letter, and it ends with one that shows where it ends. -/
def isDirected : List Char → Bool
  | [] => true
  | first :: rest =>
      let body := (Text.dropEnd (fun c => Text.direction c = .mark) rest).map Text.direction
      match Text.direction first, body.getLast? with
      | .left, none => true
      | .left, some last =>
          (last = .left || last = .number) && body.all fun d => d ≠ .right && d ≠ .arabicNumber
      | .right, none => true
      | .right, some last =>
          (last = .right || last = .number || last = .arabicNumber) &&
            body.all (· ≠ .left) && !(body.contains .number && body.contains .arabicNumber)
      | _, _ => false

end Label

end WalletCredentials

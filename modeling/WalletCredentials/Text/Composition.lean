import WalletCredentials.Text.CombiningClass
import WalletCredentials.Text.Decomposition

/-!
# Composed texts

Texts that look the same may be written with different characters. Composition gives them
one form: all characters are decomposed, the marks after each are put in the order of
their classes, and what stands together for one character becomes that character.
-/

namespace WalletCredentials.Text

/-- Puts a character in front of ordered ones, behind the marks of lower classes. -/
def insertMark (c : Char) : List Char → List Char
  | [] => [c]
  | d :: rest =>
      if combiningClass d ≠ 0 ∧ combiningClass d < combiningClass c then d :: insertMark c rest
      else c :: d :: rest

/-- The characters with the marks after each in the order of their classes. -/
def ordered (cs : List Char) : List Char := cs.foldr insertMark []

/-- Tells whether the marks behind a character keep another one from joining it. -/
def isBlocked (marks : List Char) (c : Char) : Bool :=
  match marks with
  | [] => false
  | last :: _ => combiningClass c ≤ combiningClass last

/-- Joins a character with those that follow. The marks behind it that have not joined it
are in reverse order. -/
def joinAll (c : Char) : (marks : List Char) → List Char → List Char
  | marks, [] => c :: marks.reverse
  | marks, d :: rest =>
      match if isBlocked marks d then none else join? c d with
      | some joined => joinAll joined marks rest
      | none =>
          if combiningClass d = 0 then c :: (marks.reverse ++ joinAll d [] rest)
          else joinAll c (d :: marks) rest

/-- Joins the characters that stand for one character. -/
def joinFrom : List Char → List Char
  | [] => []
  | c :: rest => if combiningClass c = 0 then joinAll c [] rest else c :: joinFrom rest

/-- The composed form of characters. -/
def composed (cs : List Char) : List Char :=
  if cs.all (·.toNat < 128) then cs else joinFrom (ordered (cs.flatMap decompose))

end WalletCredentials.Text

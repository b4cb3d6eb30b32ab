import WalletCredentials.Number.Shortest
import WalletCredentials.Text.Digits

/-!
# Written doubles

The shortest decimal of a double is written out when its point falls within bounds,
and with an exponent otherwise. Canonical documents and all other texts have
bounds of their own.
-/

namespace WalletCredentials

/-- The decisions of a way to write doubles. -/
structure Notation where
  /-- Numbers are written out when more digits than this stand before the point. -/
  above : Int
  /-- Numbers are written out when at most this many digits stand before the point. -/
  upTo : Int
  /-- What follows the digits of a whole number that is written out. -/
  wholeMark : List Char
  /-- Tells whether a negative zero keeps its sign. -/
  signedZero : Bool

/-- Canonical documents write whole numbers without a point and zero without a sign. -/
def Notation.canonical : Notation := ⟨-6, 21, [], false⟩

/-- All other texts have a digit after the point unless there is an exponent. -/
def Notation.plain : Notation := ⟨-5, 16, ['.', '0'], true⟩

/-- Digits written out, the point after the first `point` of them, and `whole` after
the digits of a whole number. -/
def positional (cs : List Char) (point : Int) (whole : List Char) : List Char :=
  if point ≤ 0 then '0' :: '.' :: (List.replicate (-point).toNat '0' ++ cs)
  else if cs.length ≤ point then cs ++ List.replicate (point.toNat - cs.length) '0' ++ whole
  else cs.take point.toNat ++ '.' :: cs.drop point.toNat

/-- Digits written with the point after the first of them and an exponent, which always
has a sign. -/
def scientific (cs : List Char) (point : Int) : List Char :=
  let power := point - 1
  let mark := 'e' :: (if power < 0 then '-' else '+') :: (toString power.natAbs).toList
  match cs with
  | [] => mark
  | [c] => c :: mark
  | c :: rest => c :: '.' :: rest ++ mark

/-- The characters of a double in a notation. -/
def Binary64.chars (style : Notation) (x : Binary64) : List Char :=
  let d := x.shortest
  let cs := (toString d.digits).toList
  let point : Int := cs.length + d.exponent
  let body :=
    if x.magnitude = 0 then '0' :: style.wholeMark
    else if style.above < point ∧ point ≤ style.upTo then positional cs point style.wholeMark
    else scientific cs point
  if x.negative ∧ (x.magnitude ≠ 0 ∨ style.signedZero) then '-' :: body else body

end WalletCredentials

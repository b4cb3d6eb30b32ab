/-!
# Double precision numbers

A finite double is a sign and a magnitude. The magnitude counts the doubles from
zero upward, which is how the standard lays out exponent and fraction: it splits
into a significand and an exponent of two. No machine arithmetic is involved.
-/

namespace WalletCredentials

/-- A finite double precision number. -/
structure Binary64 where
  negative : Bool
  /-- The place of the absolute value among the doubles, zero being the first. -/
  magnitude : Nat
  finite : magnitude < 2047 * Nat.pow 2 52
  deriving DecidableEq

namespace Binary64

/-- The zero of a sign. -/
def zero (negative : Bool) : Binary64 := ⟨negative, 0, by decide⟩

/-- The significand of the absolute value. -/
def significand (x : Binary64) : Nat :=
  if x.magnitude < Nat.pow 2 52 then x.magnitude
  else Nat.pow 2 52 + x.magnitude % Nat.pow 2 52

/-- The power of two that the significand counts. -/
def exponent (x : Binary64) : Int :=
  if x.magnitude < Nat.pow 2 52 then -1074 else (x.magnitude / Nat.pow 2 52 : Nat) - 1075

/-- The integer nearest a quotient, a half going to the even neighbour. -/
def roundQuotient (num den : Nat) : Nat :=
  let q := num / den
  let r := num % den
  if 2 * r < den then q
  else if den < 2 * r then q + 1
  else if q % 2 = 0 then q else q + 1

/-- A quotient divided by a power of two, as a numerator and a denominator. -/
def scaleDown (num den : Nat) (power : Int) : Nat × Nat :=
  (num * Nat.pow 2 (-power).toNat, den * Nat.pow 2 power.toNat)

/-- The greatest power of two that is at most a positive quotient, as its exponent. -/
def floorLog2 (num den : Nat) : Int :=
  let guess : Int := (Nat.log2 num : Int) - Nat.log2 den
  let (n, d) := scaleDown num den guess
  if d ≤ n then guess else guess - 1

/-- The double of a sign nearest a positive quotient, unless it is too large. -/
def ofQuotient? (negative : Bool) (num den : Nat) : Option Binary64 :=
  let power := max (-1074) (floorLog2 num den - 52)
  let (n, d) := scaleDown num den power
  let magnitude := (power + 1074).toNat * Nat.pow 2 52 + roundQuotient n d
  if h : magnitude < 2047 * Nat.pow 2 52 then some ⟨negative, magnitude, h⟩ else none

/-- The double nearest `digits * 10 ^ exponent`, unless it is too large. Exponents
that put the value far outside the range of doubles are settled without computing it. -/
def ofDecimal? (negative : Bool) (digits : Nat) (exponent : Int) : Option Binary64 :=
  if digits = 0 then some (zero negative)
  else if 400 < exponent then none
  else if exponent < -(400 + Nat.log2 digits) then some (zero negative)
  else ofQuotient? negative (digits * Nat.pow 10 exponent.toNat)
    (Nat.pow 10 (-exponent).toNat)

end Binary64

end WalletCredentials

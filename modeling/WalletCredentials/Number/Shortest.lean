import WalletCredentials.Number.Binary64

/-!
# Shortest decimals

The decimal that stands for a double is the one with the fewest digits that reads
back as the double; of several it is the nearest, and of two equally near the even
one. The numbers that read back form an interval around the double, and the fewest
digits belong to the coarsest power of ten of which a multiple lies in it.
-/

namespace WalletCredentials

/-- A decimal `digits * 10 ^ exponent`. -/
structure Decimal where
  digits : Nat
  exponent : Int
  deriving DecidableEq, Repr

/-- The numbers that read back as a positive double, as multiples of `1 / scale`. -/
structure Rounding where
  low : Nat
  value : Nat
  high : Nat
  scale : Nat
  /-- Tells whether the ends read back too. -/
  ends : Bool
  deriving Repr

/-- The numbers that read back as a double. Below a power of two the doubles lie
twice as close. -/
def Binary64.rounding (x : Binary64) : Rounding :=
  let m := x.significand
  let up := Nat.pow 2 x.exponent.toNat
  let gap := if m = Nat.pow 2 52 ∧ -1074 < x.exponent then 1 else 2
  { low := (4 * m - gap) * up
    value := 4 * m * up
    high := (4 * m + 2) * up
    scale := 4 * Nat.pow 2 (-x.exponent).toNat
    ends := m % 2 = 0 }

namespace Rounding

/-- Tells whether `n / scale` reads back. -/
def holds (r : Rounding) (n : Nat) : Bool :=
  if r.ends then r.low ≤ n && n ≤ r.high else r.low < n && n < r.high

/-- The same numbers as multiples of `10 ^ power / den`, for a common `den`. -/
def onGrid (r : Rounding) (power : Int) : Rounding :=
  let up := Nat.pow 10 (-power).toNat
  { low := r.low * up, value := r.value * up, high := r.high * up
    scale := r.scale * Nat.pow 10 power.toNat, ends := r.ends }

/-- The multiple of the grid that reads back and lies nearest, if one reads back. -/
def nearest? (r : Rounding) : Option Nat :=
  let below := r.value / r.scale
  let above := below + 1
  match r.holds (below * r.scale), r.holds (above * r.scale) with
  | false, false => none
  | true, false => some below
  | false, true => some above
  | true, true =>
      let down := r.value - below * r.scale
      let up := above * r.scale - r.value
      if down < up then some below
      else if up < down then some above
      else if below % 2 = 0 then some below else some above

/-- The nearest number on the coarsest grid that reads back, among the grids from
`10 ^ power` downward. -/
def coarsest (r : Rounding) : (steps : Nat) → (power : Int) → Decimal
  | 0, power => ⟨0, power⟩
  | steps + 1, power =>
      match (r.onGrid power).nearest? with
      | some digits => ⟨digits, power⟩
      | none => coarsest r steps (power - 1)

end Rounding

/-- The shortest decimal of the absolute value of a double. Doubles lie below
`10 ^ 309`, and no double needs a digit below `10 ^ -344`. -/
def Binary64.shortest (x : Binary64) : Decimal :=
  if x.magnitude = 0 then ⟨0, 0⟩ else x.rounding.coarsest 654 309

end WalletCredentials

import WalletCredentials.Calendar
import WalletCredentials.InputError

/-!
# Timestamps

A timestamp is a whole second of universal time. A leap second is a second of its
own: it shares its count with the second before it, follows that second and
precedes the next.

## Implementation notes

The order is that of `rank`, which counts half seconds so that a leap second has
a place between its neighbours.
-/

namespace WalletCredentials

/-- The first second of the calendar, that of year -262143. -/
def Timestamp.earliest : Int := -8334601228800

/-- The last second of the calendar, that of year 262142. -/
def Timestamp.latest : Int := 8210266876799

/-- A second of universal time. -/
structure Timestamp where
  /-- The seconds since 1 January 1970, leap seconds left out. -/
  unix : Int
  /-- Tells whether it is the leap second after that second. -/
  leap : Bool
  in_range : Timestamp.earliest ≤ unix ∧ unix ≤ Timestamp.latest
  leap_last : leap = true → unix % 60 = 59
  deriving DecidableEq

namespace Timestamp

/-- The timestamp of a count of seconds, if the calendar holds it. -/
def ofUnix? (unix : Int) (leap : Bool) : Option Timestamp :=
  if h : (earliest ≤ unix ∧ unix ≤ latest) ∧ (leap = true → unix % 60 = 59) then
    some ⟨unix, leap, h.1, h.2⟩
  else none

/-- The place of a timestamp in time, in half seconds. -/
def rank (t : Timestamp) : Int :=
  2 * t.unix + if t.leap then 1 else 0

instance : LE Timestamp := ⟨fun a b => a.rank ≤ b.rank⟩

instance : LT Timestamp := ⟨fun a b => a.rank < b.rank⟩

instance (a b : Timestamp) : Decidable (a ≤ b) := inferInstanceAs (Decidable (a.rank ≤ b.rank))

instance (a b : Timestamp) : Decidable (a < b) := inferInstanceAs (Decidable (a.rank < b.rank))

instance : Ord Timestamp := ⟨fun a b => compare a.rank b.rank⟩

/-- Tells whether `now` lies after a timestamp. The second itself is not past yet. -/
def isPassedAt (t now : Timestamp) : Bool := t < now

/-- A signed length of time: whole seconds and a part of the second after them. -/
structure Span where
  seconds : Int
  nanos : Nat
  deriving DecidableEq, Repr

/-- A span of whole seconds. -/
def Span.ofSeconds (seconds : Int) : Span := ⟨seconds, 0⟩

/-- The whole seconds of a span, counted toward zero. -/
def Span.wholeSeconds (d : Span) : Int :=
  if d.seconds < 0 ∧ d.nanos ≠ 0 then d.seconds + 1 else d.seconds

/-- The day of a timestamp. -/
def date (t : Timestamp) : Calendar.Date := Calendar.Date.ofDays (t.unix / 86400)

/-- The second of the day of a timestamp, leap seconds left out. -/
def secondOfDay (t : Timestamp) : Nat := (t.unix % 86400).toNat

/-- The text of a year: four digits, and a sign where they do not suffice. -/
def yearText (year : Int) : List Char :=
  if 0 ≤ year ∧ year ≤ 9999 then Text.digitsOf 4 year.toNat
  else (if year < 0 then '-' else '+') :: Text.padded 4 year.natAbs

/-- The characters of a timestamp. -/
def chars (t : Timestamp) : List Char :=
  let s := t.secondOfDay
  let second := if t.leap then 60 else s % 60
  yearText t.date.year ++ '-' :: Text.digitsOf 2 t.date.month ++
    '-' :: Text.digitsOf 2 t.date.day ++
    'T' :: Text.digitsOf 2 (s / 3600) ++ ':' :: Text.digitsOf 2 (s / 60 % 60) ++
    ':' :: Text.digitsOf 2 second ++ ['Z']

/-- The text of a timestamp, such as `2024-01-01T00:15:00Z`. -/
def text (t : Timestamp) : String := String.ofList t.chars

instance : ToString Timestamp := ⟨text⟩

/-- The seconds count and the leap mark of a timestamp moved by a span. A leap
second counts as the second before it when it moves on by a second or more, as the
second after it when it moves back, and it stays where it is otherwise. -/
def shifted (t : Timestamp) (d : Span) : Int × Bool :=
  if t.leap then
    if d.seconds < 0 then (t.unix + 1 + d.seconds, false)
    else if d.seconds = 0 then (t.unix, true)
    else (t.unix + d.seconds, false)
  else (t.unix + d.seconds, false)

/-- The timestamp a span later, parts of a second left out. -/
def plus (t : Timestamp) (d : Span) : Except InputError Timestamp :=
  match ofUnix? (t.shifted d).1 (t.shifted d).2 with
  | some t' => .ok t'
  | none => .error (.timestampOverflow t.text d.wholeSeconds)

end Timestamp

end WalletCredentials

import WalletCredentials.Encoding.Utf8
import WalletCredentials.Timestamp.Basic

/-!
# Reading timestamps

The grammar is that of RFC 3339: a date, a separator, a time of day with an
optional fraction, and an offset. Faults are reported from left to right; a date is
checked when its day has been read, a time when its fraction has, and the size of
the offset when nothing is left.
-/

namespace WalletCredentials.Timestamp

/-- Reads two digits. -/
def twoDigits : List Char → Except TimeFault (Nat × List Char)
  | a :: b :: rest =>
      if Text.isDigit a && Text.isDigit b then .ok (Text.number [a, b], rest) else .error .invalid
  | [_] => .error .invalid
  | [] => .error .tooShort

/-- Reads four digits. -/
def fourDigits : List Char → Except TimeFault (Nat × List Char)
  | a :: b :: c :: d :: rest =>
      if [a, b, c, d].all Text.isDigit then .ok (Text.number [a, b, c, d], rest)
      else .error .invalid
  | _ => .error .invalid

theorem fourDigits_eq_ok_iff {cs rest : List Char} {n : Nat} :
    fourDigits cs = .ok (n, rest) ↔ ∃ a b c d, cs = a :: b :: c :: d :: rest ∧
      [a, b, c, d].all Text.isDigit = true ∧ Text.number [a, b, c, d] = n := by
  constructor
  · intro h
    rw [fourDigits.eq_def] at h
    split at h
    · rename_i a b c d _
      split at h
      · rename_i hdigits
        cases h
        exact ⟨a, b, c, d, rfl, hdigits, rfl⟩
      · cases h
    · cases h
  · rintro ⟨a, b, c, d, rfl, hdigits, rfl⟩
    rw [fourDigits, if_pos hdigits]

/-- Reads a character of a given kind. -/
def character (accepts : Char → Bool) : List Char → Except TimeFault (List Char)
  | c :: rest => if accepts c then .ok rest else .error .invalid
  | [] => .error .tooShort

/-- Reads the date of a text and checks it. -/
def readDate (cs : List Char) : Except TimeFault (Calendar.Date × List Char) := do
  let (year, cs) ← fourDigits cs
  let cs ← character (· = '-') cs
  let (month, cs) ← twoDigits cs
  let cs ← character (· = '-') cs
  let (day, cs) ← twoDigits cs
  let date : Calendar.Date := ⟨year, month, day⟩
  if date.isValid then return (date, cs) else throw .outOfRange

/-- Tells whether a character may stand between the date and the time. -/
def isSeparator (c : Char) : Bool := c = 'T' || c = 't' || c = ' '

/-- Reads past the fraction of a second, if one follows. -/
def skipFraction : List Char → Except TimeFault (List Char)
  | '.' :: [] => .error .tooShort
  | '.' :: c :: rest =>
      if Text.isDigit c then .ok (rest.dropWhile Text.isDigit) else .error .invalid
  | cs => .ok cs

/-- A time of day: the second of the day, and whether the leap second after it is meant. -/
structure ClockTime where
  second : Nat
  leap : Bool
  deriving DecidableEq, Repr

/-- The time of day of an hour, a minute and a second, where a second 60 is a leap second. -/
def clockTime? (hour minute second : Nat) : Option ClockTime :=
  if hour < 24 ∧ minute < 60 ∧ second ≤ 60 then
    some ⟨3600 * hour + 60 * minute + min second 59, second = 60⟩
  else none

/-- Reads the time of day of a text and checks it. -/
def readTime (cs : List Char) : Except TimeFault (ClockTime × List Char) := do
  let (hour, cs) ← twoDigits cs
  let cs ← character (· = ':') cs
  let (minute, cs) ← twoDigits cs
  let cs ← character (· = ':') cs
  let (second, cs) ← twoDigits cs
  let cs ← skipFraction cs
  match clockTime? hour minute second with
  | some time => return (time, cs)
  | none => throw .outOfRange

/-- The sign of an offset: whether it is negative. -/
def offsetSign? (c : Char) : Option Bool :=
  if c = '+' then some false
  else if c = '-' ∨ c = Char.ofNat 0x2212 then some true
  else none

/-- Reads the hours of an offset. -/
def offsetHours (cs : List Char) : Except TimeFault (Nat × List Char) :=
  if Utf8.size cs < 2 then .error .tooShort else twoDigits cs

/-- Reads the minutes of an offset. -/
def offsetMinutes (cs : List Char) : Except TimeFault (Nat × List Char) := do
  let (minutes, rest) ← offsetHours cs
  if minutes < 60 then return (minutes, rest) else throw .outOfRange

/-- Reads an offset, in minutes east of universal time. -/
def readOffset : List Char → Except TimeFault (Int × List Char)
  | [] => .error .tooShort
  | c :: cs =>
      if c = 'Z' ∨ c = 'z' then .ok (0, cs)
      else match offsetSign? c with
        | none => .error .invalid
        | some negative => do
            let (hours, cs) ← offsetHours cs
            let cs ← character (· = ':') cs
            let (minutes, cs) ← offsetMinutes cs
            let offset : Int := 60 * hours + minutes
            return (if negative then -offset else offset, cs)

/-- Reads the characters of a timestamp. -/
def readChars (cs : List Char) : Except TimeFault Timestamp := do
  if Utf8.size cs < 19 then throw .tooShort
  let (date, cs) ← readDate cs
  let cs ← character isSeparator cs
  let (time, cs) ← readTime cs
  let (offset, cs) ← readOffset cs
  if ¬ cs.isEmpty then throw .tooLong
  if 1440 ≤ offset.natAbs then throw .outOfRange
  match ofUnix? (86400 * date.toDays + time.second - 60 * offset) time.leap with
  | some t => return t
  | none => throw .outOfRange

/-- Reads a timestamp of any offset, parts of a second left out. -/
def read (text : String) : Except InputError Timestamp :=
  match readChars text.toList with
  | .ok t => .ok t
  | .error fault => .error (.invalidTimestamp text fault)

theorem read_eq_ok_iff {text : String} {t : Timestamp} :
    read text = .ok t ↔ readChars text.toList = .ok t := by
  rw [read]
  cases readChars text.toList with
  | ok t' => simp
  | error fault => simp

end WalletCredentials.Timestamp

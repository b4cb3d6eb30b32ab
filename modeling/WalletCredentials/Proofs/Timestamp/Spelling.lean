import WalletCredentials.Proofs.Timestamp.Text

/-!
# The spellings of a time

A time can be written at any offset from universal time, with a fraction of a second, and with
several marks before the time of day and for the offset zero. Every spelling of a timestamp is
read as it, also where the date at the offset is one of another month or year, and where the
second is a leap second.
-/

namespace WalletCredentials.Timestamp

open Calendar

/-- A way to write an offset from universal time. -/
inductive Zone
  /-- The offset zero as a letter. -/
  | zulu (letter : Char) (letter_mem : letter ∈ ['Z', 'z'])
  /-- Hours and minutes west or east of universal time. -/
  | offset (west : Bool) (hours : Fin 24) (minutes : Fin 60)

namespace Zone

/-- The minutes of an offset, counted east of universal time. -/
def minutesEast : Zone → Int
  | zulu _ _ => 0
  | offset true hours minutes => -(60 * (hours : Int) + (minutes : Int))
  | offset false hours minutes => 60 * (hours : Int) + (minutes : Int)

/-- The characters of an offset. -/
def chars : Zone → List Char
  | zulu letter _ => [letter]
  | offset west hours minutes =>
      (if west then '-' else '+') :: (Text.digitsOf 2 hours ++ ':' :: Text.digitsOf 2 minutes)

theorem natAbs_minutesEast_lt (zone : Zone) : zone.minutesEast.natAbs < 1440 := by
  cases zone with
  | zulu letter letter_mem => simp [minutesEast]
  | offset west hours minutes =>
      have := hours.isLt
      have := minutes.isLt
      cases west <;> simp only [minutesEast] <;> omega

/-- No offset begins as a fraction does, or goes on with the digits of one. -/
theorem exists_chars_eq (zone : Zone) : ∃ c rest, zone.chars = c :: rest ∧ c ≠ '.' ∧
    Text.isDigit c = false := by
  cases zone with
  | zulu letter letter_mem =>
      have hletter : letter = 'Z' ∨ letter = 'z' := by simpa using letter_mem
      rcases hletter with rfl | rfl <;> exact ⟨_, _, rfl, by decide, by decide⟩
  | offset west hours minutes => cases west <;> exact ⟨_, _, rfl, by decide, by decide⟩

end Zone

theorem offsetHours_append {n : Nat} (h : n < 100) (rest : List Char) :
    offsetHours (Text.digitsOf 2 n ++ rest) = .ok (n, rest) := by
  have hsize : ¬Utf8.size (Text.digitsOf 2 n ++ rest) < 2 := by
    refine Nat.not_lt.mpr (le_trans ?_ (length_le_size _))
    simp
  rw [offsetHours, if_neg hsize, twoDigits_append, Nat.mod_eq_of_lt h]

theorem offsetMinutes_append {n : Nat} (h : n < 60) (rest : List Char) :
    offsetMinutes (Text.digitsOf 2 n ++ rest) = .ok (n, rest) := by
  rw [offsetMinutes, offsetHours_append (by omega), ok_bind]
  simp only [if_pos h]
  rfl

theorem readOffset_chars (zone : Zone) : readOffset zone.chars = .ok (zone.minutesEast, []) := by
  cases zone with
  | zulu letter letter_mem =>
      have hletter : letter = 'Z' ∨ letter = 'z' := by simpa using letter_mem
      rw [Zone.chars, readOffset, if_pos hletter, Zone.minutesEast]
  | offset west hours minutes =>
      have hhours := hours.isLt
      have hminutes := offsetMinutes_append minutes.isLt []
      rw [List.append_nil] at hminutes
      have hsign : offsetSign? (if west then '-' else '+') = some west := by cases west <;> decide
      have hletter : ¬((if west then '-' else '+') = 'Z' ∨ (if west then '-' else '+') = 'z') := by
        cases west <;> decide
      rw [Zone.chars, readOffset, if_neg hletter, hsign]
      simp only [offsetHours_append (show hours.val < 100 by omega), ok_bind, character_cons,
        decide_true, hminutes]
      cases west <;> rfl

/-- A way to write times: the mark before the time of day, the digits of a fraction of a second,
none for no fraction, and the offset at which date and time of day are given. -/
structure Spelling where
  separator : Char
  separator_mem : separator ∈ ['T', 't', ' ']
  fraction : List (Fin 10)
  zone : Zone

namespace Spelling

variable (spelling : Spelling) (t : Timestamp)

/-- The seconds since 1 January 1970 that a clock at the offset has counted. -/
def secondsOf : Int := t.unix + 60 * spelling.zone.minutesEast

/-- The date of a timestamp at the offset. -/
def dateOf : Date := Date.ofDays (spelling.secondsOf t / 86400)

/-- The second of the day of a timestamp at the offset, leap seconds left out. -/
def secondOfDayOf : Nat := (spelling.secondsOf t % 86400).toNat

/-- The characters of the fraction of a second. -/
def fractionChars : List Char :=
  if spelling.fraction = [] then [] else '.' :: spelling.fraction.map fun n => Text.digit n.val

/-- The text of a timestamp in a spelling. -/
def textOf : String :=
  String.ofList (dateChars (spelling.dateOf t) ++ spelling.separator ::
    (clockChars (spelling.secondOfDayOf t) t.leap ++
      (spelling.fractionChars ++ spelling.zone.chars)))

/-- A fraction of a second is read past up to the offset. -/
theorem skipFraction_chars :
    skipFraction (spelling.fractionChars ++ spelling.zone.chars) = .ok spelling.zone.chars := by
  obtain ⟨c, rest, hchars, hpoint, hdigit⟩ := spelling.zone.exists_chars_eq
  have hdrop (digits : List (Fin 10)) :
      (digits.map (fun n => Text.digit n.val) ++ c :: rest).dropWhile Text.isDigit = c :: rest := by
    rw [List.dropWhile_append_of_pos (by simp [Text.isDigit_digit]), List.dropWhile_cons_of_neg
      (by simp [hdigit])]
  rw [fractionChars, hchars]
  cases spelling.fraction with
  | nil =>
      rw [if_pos rfl, List.nil_append, skipFraction]
      · simp [hpoint]
      · simp [hpoint]
  | cons n digits =>
      rw [if_neg (List.cons_ne_nil _ _), List.map_cons, List.cons_append, List.cons_append,
        skipFraction, if_pos (Text.isDigit_digit n), hdrop]

/-- A timestamp is read from its text in a spelling if its year there has four digits. -/
theorem read_textOf (hyear : 0 ≤ (spelling.dateOf t).year ∧ (spelling.dateOf t).year ≤ 9999) :
    read (spelling.textOf t) = .ok t := by
  have hseparator : isSeparator spelling.separator = true := by
    have hmem : spelling.separator = 'T' ∨ spelling.separator = 't' ∨ spelling.separator = ' ' := by
      simpa using spelling.separator_mem
    rcases hmem with h | h | h <;> rw [h] <;> decide
  have hlt : spelling.secondOfDayOf t < 86400 := by
    rw [secondOfDayOf]
    omega
  -- An offset is one of whole minutes, and so a leap second ends a minute at every offset.
  have hleap : t.leap = true → spelling.secondOfDayOf t % 60 = 59 := fun h => by
    have := t.leap_last h
    rw [secondOfDayOf, secondsOf]
    omega
  have hunix : 86400 * (spelling.dateOf t).toDays + (spelling.secondOfDayOf t : Int) -
      60 * spelling.zone.minutesEast = t.unix := by
    rw [dateOf, toDays_ofDays, secondOfDayOf, secondsOf]
    omega
  rw [read_eq_ok_iff, textOf, String.toList_ofList, readChars_append hyear (isValid_ofDays _)
    hseparator hlt hleap spelling.skipFraction_chars (readOffset_chars _)
    spelling.zone.natAbs_minutesEast_lt hunix]

end Spelling

/-- Tells that a timestamp is read back from its text, and from its text in every spelling where
its year has four digits. -/
structure SurvivesText (t : Timestamp) : Prop where
  text : read t.text = .ok t
  spelling : ∀ spelling : Spelling, 0 ≤ (spelling.dateOf t).year →
    (spelling.dateOf t).year ≤ 9999 → read (spelling.textOf t) = .ok t

/-- Times are dated by the calendar, and a timestamp survives all its texts. -/
theorem survivesText_of_hasFourDigitYear {t : Timestamp} (h : t.HasFourDigitYear) :
    IsGregorian Date.ofDays ∧ t.SurvivesText :=
  ⟨isGregorian_ofDays, read_text h, fun spelling hlow hhigh =>
    spelling.read_textOf t ⟨hlow, hhigh⟩⟩

/-- The leap second at the end of 1990. -/
def lastOf1990 : Timestamp := ⟨662687999, true, by decide, by decide⟩

/-- A fraction of the second where the time is five and a half hours later. -/
def Spelling.eastern : Spelling := ⟨'t', by decide, [2, 5], .offset false 5 30⟩

/-- The leap second at the end of 1990 is read where the year is over already. -/
theorem survivesText_lastOf1990 : lastOf1990.HasFourDigitYear ∧
    (Spelling.eastern.dateOf lastOf1990).year = 1991 ∧
    Spelling.eastern.textOf lastOf1990 = "1991-01-01t05:29:60.25+05:30" ∧
    read "1991-01-01t05:29:60.25+05:30" = .ok lastOf1990 := by
  have hyear : lastOf1990.HasFourDigitYear := by decide
  have heast : (Spelling.eastern.dateOf lastOf1990).year = 1991 := by decide
  have htext : Spelling.eastern.textOf lastOf1990 = "1991-01-01t05:29:60.25+05:30" := by decide
  have hread := (survivesText_of_hasFourDigitYear hyear).2.spelling .eastern (by rw [heast]; decide)
    (by rw [heast]; decide)
  rw [htext] at hread
  exact ⟨hyear, heast, htext, hread⟩

end WalletCredentials.Timestamp

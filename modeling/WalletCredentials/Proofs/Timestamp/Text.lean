import WalletCredentials.Proofs.Calendar
import WalletCredentials.Proofs.Result
import WalletCredentials.Proofs.Timestamp.Addition
import WalletCredentials.Timestamp.Reader

/-!
# Timestamps and their texts

The text of a timestamp is read back as the timestamp if its year has four digits, and is
not read at all otherwise. Each part of the text is read by itself, whatever follows it.
-/

namespace WalletCredentials.Timestamp

open Calendar

theorem twoDigits_append (n : Nat) (rest : List Char) :
    twoDigits (Text.digitsOf 2 n ++ rest) = .ok (n % 100, rest) := by
  have hnumber := Text.number_digitsOf 2 n
  simp only [Text.digitsOf, List.nil_append, List.cons_append] at hnumber ⊢
  rw [twoDigits, Text.isDigit_digit, Text.isDigit_digit, if_pos (by decide), hnumber]

theorem fourDigits_append (n : Nat) (rest : List Char) :
    fourDigits (Text.digitsOf 4 n ++ rest) = .ok (n % 10000, rest) := by
  have hnumber := Text.number_digitsOf 4 n
  simp only [Text.digitsOf, List.nil_append, List.cons_append] at hnumber ⊢
  rw [fourDigits, if_pos (by simp [Text.isDigit_digit]), hnumber]

theorem character_cons {accepts : Char → Bool} {c : Char} (rest : List Char)
    (h : accepts c = true) : character accepts (c :: rest) = .ok rest := by
  rw [character, if_pos h]

/-- The characters of a date whose year has four digits. -/
def dateChars (d : Date) : List Char :=
  Text.digitsOf 4 d.year.toNat ++ '-' :: Text.digitsOf 2 d.month ++ '-' :: Text.digitsOf 2 d.day

/-- The parts of a valid date fit into the digits of its text. -/
theorem bounds_of_isValid {d : Date} (h : d.isValid = true) :
    d.month ≤ 12 ∧ d.day ≤ 31 := by
  simp only [Date.isValid, Bool.and_eq_true, decide_eq_true_eq] at h
  obtain ⟨⟨⟨-, hmonth⟩, -⟩, hday⟩ := h
  refine ⟨hmonth, hday.trans ?_⟩
  rw [daysInMonth]
  split
  · split <;> decide
  · split <;> decide

theorem readDate_append {d : Date} (hyear : 0 ≤ d.year ∧ d.year ≤ 9999) (hvalid : d.isValid = true)
    (rest : List Char) : readDate (dateChars d ++ rest) = .ok (d, rest) := by
  obtain ⟨hmonth, hday⟩ := bounds_of_isValid hvalid
  have hdate : (⟨(d.year.toNat % 10000 : Nat), d.month % 100, d.day % 100⟩ : Date) = d := by
    obtain ⟨year, month, day⟩ := d
    simp only at hyear hmonth hday
    simp only [Date.mk.injEq]
    omega
  simp only [readDate, dateChars, List.append_assoc, List.cons_append, fourDigits_append,
    twoDigits_append, character_cons, decide_true, ok_bind, hdate, hvalid, if_true]
  rfl

/-- The characters of a time of day. -/
def timeChars (hour minute second : Nat) : List Char :=
  Text.digitsOf 2 hour ++ ':' :: Text.digitsOf 2 minute ++ ':' :: Text.digitsOf 2 second

theorem readTime_append {hour minute second : Nat} {time : ClockTime} {cs rest : List Char}
    (h : clockTime? hour minute second = some time) (hfraction : skipFraction cs = .ok rest) :
    readTime (timeChars hour minute second ++ cs) = .ok (time, rest) := by
  have hbounds : hour < 24 ∧ minute < 60 ∧ second ≤ 60 := by
    rw [clockTime?] at h
    split at h
    · assumption
    · cases h
  simp only [readTime, timeChars, List.append_assoc, List.cons_append, twoDigits_append,
    character_cons, decide_true, ok_bind, hfraction, Nat.mod_eq_of_lt (show hour < 100 by omega),
    Nat.mod_eq_of_lt (show minute < 100 by omega), Nat.mod_eq_of_lt (show second < 100 by omega), h]
  rfl

theorem length_le_size (cs : List Char) : cs.length ≤ Utf8.size cs := by
  induction cs with
  | nil => simp
  | cons c rest ih =>
      have hc : 0 < (String.utf8EncodeChar c).length := by
        rw [String.length_utf8EncodeChar]
        exact c.utf8Size_pos
      simp only [Utf8.size, Utf8.encodeChars, List.flatMap_cons, List.length_append,
        List.length_cons] at ih ⊢
      omega

/-- The characters of the time of day at a second of the day, or at the leap second after it. -/
def clockChars (second : Nat) (leap : Bool) : List Char :=
  timeChars (second / 3600) (second / 60 % 60) (if leap then 60 else second % 60)

/-- The time of day that such characters state. -/
theorem clockTime?_eq {second : Nat} {leap : Bool} (hlt : second < 86400)
    (hleap : leap = true → second % 60 = 59) :
    clockTime? (second / 3600) (second / 60 % 60) (if leap then 60 else second % 60) =
      some ⟨second, leap⟩ := by
  cases leap with
  | true =>
      have h59 := hleap rfl
      simp only [if_true, clockTime?, decide_true]
      rw [if_pos (by omega)]
      simp only [Option.some.injEq, ClockTime.mk.injEq, and_true]
      omega
  | false =>
      simp only [Bool.false_eq_true, if_false, clockTime?]
      rw [if_pos (by omega)]
      simp only [Option.some.injEq, ClockTime.mk.injEq, decide_eq_false_iff_not]
      omega

/-- A text is read as a time if its date, its time of day and its offset come to that time,
whatever fraction stands before the offset. -/
theorem readChars_append {date : Date} {second : Nat} {separator : Char} {cs rest : List Char}
    {offset : Int} {t : Timestamp} (hyear : 0 ≤ date.year ∧ date.year ≤ 9999)
    (hvalid : date.isValid = true) (hseparator : isSeparator separator = true)
    (hlt : second < 86400) (hleap : t.leap = true → second % 60 = 59)
    (hfraction : skipFraction cs = .ok rest) (hoffset : readOffset rest = .ok (offset, []))
    (hday : offset.natAbs < 1440)
    (hunix : 86400 * date.toDays + (second : Int) - 60 * offset = t.unix) :
    readChars (dateChars date ++ separator :: (clockChars second t.leap ++ cs)) = .ok t := by
  have hsize : ¬Utf8.size (dateChars date ++ separator :: (clockChars second t.leap ++ cs)) < 19 := by
    refine Nat.not_lt.mpr (le_trans ?_ (length_le_size _))
    simp only [dateChars, clockChars, timeChars, List.length_append, List.length_cons,
      Text.length_digitsOf]
    omega
  have htime : readTime (clockChars second t.leap ++ cs) = .ok (⟨second, t.leap⟩, rest) :=
    readTime_append (clockTime?_eq hlt hleap) hfraction
  have hempty : ¬¬([] : List Char).isEmpty = true := by decide
  rw [readChars, if_neg hsize]
  simp only [readDate_append hyear hvalid, ok_bind, character_cons _ hseparator, htime, hoffset,
    if_neg hempty, if_neg (Nat.not_le.mpr hday), hunix, ofUnix?_eq_some_iff.mpr ⟨rfl, rfl⟩]
  rfl

/-- Tells that the year of a timestamp is written with four digits and no sign. -/
def HasFourDigitYear (t : Timestamp) : Prop := 0 ≤ t.date.year ∧ t.date.year ≤ 9999

instance (t : Timestamp) : Decidable t.HasFourDigitYear := inferInstanceAs (Decidable (_ ∧ _))

theorem chars_eq {t : Timestamp} (h : t.HasFourDigitYear) :
    t.chars = dateChars t.date ++ 'T' :: (clockChars t.secondOfDay t.leap ++ ['Z']) := by
  rw [HasFourDigitYear] at h
  rw [chars, yearText, if_pos h]
  simp [dateChars, clockChars, timeChars]

/-- The text of a timestamp is read back as the timestamp. -/
theorem readChars_chars {t : Timestamp} (h : t.HasFourDigitYear) :
    readChars t.chars = .ok t := by
  have hunix : 86400 * t.date.toDays + (t.secondOfDay : Int) - 60 * 0 = t.unix := by
    rw [date, toDays_ofDays, secondOfDay]
    omega
  have hlt : t.secondOfDay < 86400 := by
    rw [secondOfDay]
    omega
  have hleap : t.leap = true → t.secondOfDay % 60 = 59 := fun h => by
    have := t.leap_last h
    rw [secondOfDay]
    omega
  rw [chars_eq h]
  exact readChars_append h (isValid_ofDays _) (by decide) hlt hleap rfl rfl (by decide) hunix

/-- The text of a timestamp is read back as the timestamp. -/
theorem read_text {t : Timestamp} (h : t.HasFourDigitYear) : read t.text = .ok t := by
  rw [read_eq_ok_iff, text, String.toList_ofList, readChars_chars h]

theorem readDate_cons {c : Char} (h : Text.isDigit c = false) (rest : List Char) :
    readDate (c :: rest) = .error .invalid := by
  have hdigits : fourDigits (c :: rest) = .error .invalid := by
    rw [fourDigits.eq_def]
    split
    · rename_i a _ _ _ _ heq
      obtain ⟨rfl, -⟩ := List.cons_eq_cons.mp heq
      rw [if_neg (by simp [h])]
    · rfl
  rw [readDate, hdigits, error_bind]

/-- A text that does not begin with a digit is the text of no time. -/
theorem readChars_cons_ne {c : Char} (h : Text.isDigit c = false) (rest : List Char)
    (t : Timestamp) : readChars (c :: rest) ≠ .ok t := by
  intro ht
  rw [readChars] at ht
  split at ht
  · cases ht
  · rw [readDate_cons h, error_bind] at ht
    cases ht

/-- The text of a timestamp is read as a time exactly if its year is written with four digits
and no sign. -/
theorem exists_read_text_iff {t : Timestamp} :
    (∃ t', read t.text = .ok t') ↔ t.HasFourDigitYear := by
  constructor
  · rintro ⟨t', h⟩
    by_contra hyear
    rw [HasFourDigitYear] at hyear
    have hsign : Text.isDigit (if t.date.year < 0 then '-' else '+') = false := by
      split <;> decide
    have hread : readChars t.chars = .ok t' := by
      rwa [read_eq_ok_iff, text, String.toList_ofList] at h
    rw [chars, yearText, if_neg hyear] at hread
    exact readChars_cons_ne hsign _ t' hread
  · intro h
    exact ⟨t, read_text h⟩

/-- A text with a year of four digits is that of one timestamp only. -/
theorem eq_of_text_eq {t t' : Timestamp} (h : t.HasFourDigitYear) (htext : t'.text = t.text) :
    t' = t := by
  have hread : read t'.text = .ok t := by rw [htext, read_text h]
  have hread' := read_text (exists_read_text_iff.mp ⟨t, hread⟩)
  rw [hread, Except.ok.injEq] at hread'
  exact hread'.symm

end WalletCredentials.Timestamp

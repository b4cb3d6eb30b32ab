import Mathlib.Data.List.TakeWhile
import WalletCredentials.Proofs.Result
import WalletCredentials.Timestamp.Reader

/-!
# The characters of times

A text that is read as a time holds digits, signs and the few letters and marks of its grammar,
and nothing else. Each part of the reader reads past such characters.
-/

namespace WalletCredentials.Timestamp

/-- The characters that may stand in the text of a time. -/
def IsTimeChar (c : Char) : Prop :=
  Text.isDigit c = true ∨
    c ∈ ['-', ':', '.', 'T', 't', ' ', 'Z', 'z', '+', Char.ofNat 0x2212]

instance (c : Char) : Decidable (IsTimeChar c) := inferInstanceAs (Decidable (_ ∨ _))

/-- Tells that what a reader takes from the front of a text are characters of times. -/
def ReadsPast (cs rest : List Char) : Prop :=
  ∃ taken, cs = taken ++ rest ∧ ∀ c ∈ taken, IsTimeChar c

namespace ReadsPast

variable {cs cs' rest : List Char} {c : Char}

theorem refl (cs : List Char) : ReadsPast cs cs := ⟨[], rfl, by simp⟩

theorem trans (h : ReadsPast cs cs') (h' : ReadsPast cs' rest) : ReadsPast cs rest := by
  obtain ⟨taken, rfl, htaken⟩ := h
  obtain ⟨taken', rfl, htaken'⟩ := h'
  exact ⟨taken ++ taken', (List.append_assoc ..).symm, List.forall_mem_append.mpr ⟨htaken, htaken'⟩⟩

theorem cons (hc : IsTimeChar c) (h : ReadsPast cs rest) : ReadsPast (c :: cs) rest :=
  trans ⟨[c], rfl, by simpa using hc⟩ h

/-- A reader that leaves nothing has read characters of times only. -/
theorem forall_mem (h : ReadsPast cs []) : ∀ c ∈ cs, IsTimeChar c := by
  obtain ⟨taken, rfl, htaken⟩ := h
  rwa [List.append_nil]

end ReadsPast

variable {cs rest : List Char}

theorem twoDigits_readsPast {n : Nat} (h : twoDigits cs = .ok (n, rest)) : ReadsPast cs rest := by
  rw [twoDigits.eq_def] at h
  split at h
  · split at h
    · rename_i hdigits
      obtain ⟨ha, hb⟩ := Bool.and_eq_true_iff.mp hdigits
      cases h
      exact .cons (.inl ha) (.cons (.inl hb) (.refl _))
    · cases h
  · cases h
  · cases h

theorem fourDigits_readsPast {n : Nat} (h : fourDigits cs = .ok (n, rest)) :
    ReadsPast cs rest := by
  obtain ⟨a, b, c, d, rfl, hdigits, -⟩ := fourDigits_eq_ok_iff.mp h
  exact ⟨[a, b, c, d], rfl, fun c hc => .inl (List.all_eq_true.mp hdigits c hc)⟩

theorem character_readsPast {accepts : Char → Bool}
    (haccepts : ∀ c, accepts c = true → IsTimeChar c) (h : character accepts cs = .ok rest) : ReadsPast cs rest := by
  rw [character.eq_def] at h
  split at h
  · split at h
    · rename_i hc
      cases h
      exact .cons (haccepts _ hc) (.refl _)
    · cases h
  · cases h

/-- The mark between the parts of a date or of a time of day. -/
theorem mark_readsPast {mark : Char} (hmark : IsTimeChar mark)
    (h : character (· = mark) cs = .ok rest) : ReadsPast cs rest := by
  refine character_readsPast (fun c hc => ?_) h
  rw [of_decide_eq_true hc]
  exact hmark

theorem readDate_readsPast {date : Calendar.Date} (h : readDate cs = .ok (date, rest)) :
    ReadsPast cs rest := by
  simp only [readDate, bind_eq_ok_iff, Prod.exists] at h
  obtain ⟨year, cs₁, hyear, cs₂, hmark, month, cs₃, hmonth, cs₄, hmark', day, cs₅, hday, h⟩ := h
  split at h
  · cases h
    exact (fourDigits_readsPast hyear).trans <| (mark_readsPast (by decide) hmark).trans <|
      (twoDigits_readsPast hmonth).trans <| (mark_readsPast (by decide) hmark').trans <|
      twoDigits_readsPast hday
  · cases h

theorem isTimeChar_of_isSeparator {c : Char} (h : isSeparator c = true) : IsTimeChar c := by
  simp only [isSeparator, Bool.or_eq_true, decide_eq_true_eq] at h
  rcases h with (rfl | rfl) | rfl <;> decide

theorem skipFraction_readsPast (h : skipFraction cs = .ok rest) : ReadsPast cs rest := by
  rw [skipFraction.eq_def] at h
  split at h
  · cases h
  · split at h
    · rename_i c cs' hc
      cases h
      have htaken : ReadsPast cs' (cs'.dropWhile Text.isDigit) :=
        ⟨cs'.takeWhile Text.isDigit, (List.takeWhile_append_dropWhile ..).symm,
          fun d hd => .inl (List.mem_takeWhile_imp hd)⟩
      exact .cons (by decide) (.cons (.inl hc) htaken)
    · cases h
  · cases h
    exact .refl _

theorem readTime_readsPast {time : ClockTime} (h : readTime cs = .ok (time, rest)) :
    ReadsPast cs rest := by
  simp only [readTime, bind_eq_ok_iff, Prod.exists] at h
  obtain ⟨hour, cs₁, hhour, cs₂, hmark, minute, cs₃, hminute, cs₄, hmark', second, cs₅, hsecond,
    cs₆, hfraction, h⟩ := h
  split at h
  · cases h
    exact (twoDigits_readsPast hhour).trans <| (mark_readsPast (by decide) hmark).trans <|
      (twoDigits_readsPast hminute).trans <| (mark_readsPast (by decide) hmark').trans <|
      (twoDigits_readsPast hsecond).trans <| skipFraction_readsPast hfraction
  · cases h

theorem isTimeChar_of_offsetSign? {c : Char} {negative : Bool} (h : offsetSign? c = some negative) :
    IsTimeChar c := by
  rw [offsetSign?] at h
  split at h
  · rename_i hc
    subst hc
    decide
  · split at h
    · rename_i hc
      rcases hc with rfl | rfl <;> decide
    · cases h

theorem offsetHours_readsPast {n : Nat} (h : offsetHours cs = .ok (n, rest)) :
    ReadsPast cs rest := by
  rw [offsetHours] at h
  split at h
  · cases h
  · exact twoDigits_readsPast h

theorem offsetMinutes_readsPast {n : Nat} (h : offsetMinutes cs = .ok (n, rest)) :
    ReadsPast cs rest := by
  simp only [offsetMinutes, bind_eq_ok_iff, Prod.exists] at h
  obtain ⟨minutes, cs', hhours, h⟩ := h
  split at h
  · cases h
    exact offsetHours_readsPast hhours
  · cases h

theorem readOffset_readsPast {offset : Int} (h : readOffset cs = .ok (offset, rest)) :
    ReadsPast cs rest := by
  rw [readOffset.eq_def] at h
  split at h
  · cases h
  · split at h
    · rename_i c cs' hc
      cases h
      refine .cons ?_ (.refl _)
      rcases hc with rfl | rfl <;> decide
    · split at h
      · cases h
      · rename_i hsign
        simp only [bind_eq_ok_iff, Prod.exists] at h
        obtain ⟨hours, cs₁, hhours, cs₂, hmark, minutes, cs₃, hminutes, h⟩ := h
        cases h
        exact .cons (isTimeChar_of_offsetSign? hsign) <| (offsetHours_readsPast hhours).trans <|
          (mark_readsPast (by decide) hmark).trans <| offsetMinutes_readsPast hminutes

/-- A text that is read as a time holds characters of times only. -/
theorem isTimeChar_of_readChars {t : Timestamp} (h : readChars cs = .ok t) :
    ∀ c ∈ cs, IsTimeChar c := by
  simp only [readChars, ite_throw_eq_ok_iff, bind_eq_ok_iff, Prod.exists] at h
  obtain ⟨-, date, cs₁, hdate, cs₂, hmark, time, cs₃, htime, offset, cs₄, hoffset, hempty, -⟩ := h
  have hrest : cs₄ = [] := by simpa using hempty
  subst hrest
  exact ReadsPast.forall_mem <| (readDate_readsPast hdate).trans <|
    (character_readsPast (fun _ => isTimeChar_of_isSeparator) hmark).trans <|
    (readTime_readsPast htime).trans <| readOffset_readsPast hoffset

/-- A text that is read as a time holds characters of times only. -/
theorem isTimeChar_of_read {text : String} {t : Timestamp} (h : read text = .ok t) :
    ∀ c ∈ text.toList, IsTimeChar c :=
  isTimeChar_of_readChars (read_eq_ok_iff.mp h)

end WalletCredentials.Timestamp

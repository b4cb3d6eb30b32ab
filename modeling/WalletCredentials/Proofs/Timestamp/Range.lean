import WalletCredentials.Exchange.Settings
import WalletCredentials.Proofs.Timestamp.Text

/-!
# How late a time can be that is read

The year of a text has four digits, and so the calendar goes on for long after any time that is
read. As long as such a time has not passed, every lifetime can still be added.
-/

namespace WalletCredentials.Timestamp

open Calendar

variable {cs rest : List Char}

theorem fourDigits_le {n : Nat} (h : fourDigits cs = .ok (n, rest)) : n ≤ 9999 := by
  obtain ⟨a, b, c, d, rfl, hdigits, rfl⟩ := fourDigits_eq_ok_iff.mp h
  simp only [List.all_cons, List.all_nil, Bool.and_true, Bool.and_eq_true, Text.isDigit,
    decide_eq_true_eq] at hdigits
  simp only [Text.number, Text.numberFrom, List.foldl_cons, List.foldl_nil, Text.digitValue]
  omega

theorem bounds_of_readDate {date : Date} (h : readDate cs = .ok (date, rest)) :
    date.year ≤ 9999 ∧ date.day ≤ 31 := by
  simp only [readDate, bind_eq_ok_iff, Prod.exists] at h
  obtain ⟨year, cs₁, hyear, cs₂, -, month, cs₃, -, cs₄, -, day, cs₅, -, h⟩ := h
  split at h
  · rename_i hvalid
    cases h
    exact ⟨Int.ofNat_le.mpr (fourDigits_le hyear), (bounds_of_isValid hvalid).2⟩
  · cases h

theorem second_lt_of_readTime {time : ClockTime} (h : readTime cs = .ok (time, rest)) :
    time.second < 86400 := by
  simp only [readTime, bind_eq_ok_iff, Prod.exists] at h
  obtain ⟨hour, cs₁, -, cs₂, -, minute, cs₃, -, cs₄, -, second, cs₅, -, cs₆, -, h⟩ := h
  split at h
  · rename_i htime
    cases h
    rw [clockTime?] at htime
    split at htime
    · cases htime
      show 3600 * hour + 60 * minute + min second 59 < 86400
      omega
    · cases htime
  · cases h

/-- Ten years after a time that is read the calendar has not ended yet. -/
theorem unix_add_le_of_read {text : String} {t : Timestamp} (h : read text = .ok t) :
    t.unix + maxLifetime ≤ latest := by
  have hread : readChars text.toList = .ok t := read_eq_ok_iff.mp h
  simp only [readChars, ite_throw_eq_ok_iff, bind_eq_ok_iff, Prod.exists] at hread
  obtain ⟨-, date, cs₁, hdate, cs₂, -, time, cs₃, htime, offset, cs₄, -, -, hoffset, hunix⟩ := hread
  split at hunix
  · rename_i hsome
    cases hunix
    obtain ⟨hsum, -⟩ := ofUnix?_eq_some_iff.mp hsome
    obtain ⟨hyear, hday⟩ := bounds_of_readDate hdate
    have hdays := toDays_lt hday
    have hsecond := second_lt_of_readTime htime
    rw [maxLifetime, latest]
    omega
  · cases hunix

/-- A lifetime can be added to every time up to one that is read. -/
theorem exists_plus_of_read {text : String} {now t : Timestamp} {seconds : Int}
    (h : read text = .ok t) (hnow : now ≤ t) (hpos : 0 < seconds) (hmax : seconds ≤ maxLifetime) :
    ∃ last, now.plus (.ofSeconds seconds) = .ok last := by
  have hlatest := unix_add_le_of_read h
  have hunix := unix_le_of_le hnow
  exact exists_plus hpos (by omega)

end WalletCredentials.Timestamp

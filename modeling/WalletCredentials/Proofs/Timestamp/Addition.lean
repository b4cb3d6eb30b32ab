import WalletCredentials.Proofs.Calendar
import WalletCredentials.Proofs.Timestamp.Order

/-!
# Adding spans to timestamps

A sum is the timestamp with the count of seconds and the leap mark that the addition comes
to, and there is one whenever the calendar holds it.
-/

namespace WalletCredentials.Timestamp

theorem ofUnix?_eq_some_iff {unix : Int} {leap : Bool} {t : Timestamp} :
    ofUnix? unix leap = some t ↔ t.unix = unix ∧ t.leap = leap := by
  rw [ofUnix?]
  constructor
  · intro h
    split at h
    · cases h
      exact ⟨rfl, rfl⟩
    · cases h
  · rintro ⟨rfl, rfl⟩
    rw [dif_pos ⟨t.in_range, t.leap_last⟩]

theorem shifted_of_ordinary {t : Timestamp} (h : t.leap = false) (d : Span) :
    t.shifted d = (t.unix + d.seconds, false) := by
  rw [shifted, h, if_neg Bool.false_ne_true]

/-- A span that leads back ends at an ordinary second. From a leap second it counts like from the
second after it. -/
theorem shifted_of_neg {d : Span} (h : d.seconds < 0) (t : Timestamp) :
    t.shifted d = (t.unix + (if t.leap then 1 else 0) + d.seconds, false) := by
  rw [shifted, if_pos h]
  cases t.leap with
  | false => rw [if_neg Bool.false_ne_true, if_neg Bool.false_ne_true, Int.add_zero]
  | true => rfl

/-- A span of less than a second leaves a timestamp in its second. -/
theorem shifted_of_eq_zero {d : Span} (h : d.seconds = 0) (t : Timestamp) :
    t.shifted d = (t.unix, t.leap) := by
  rw [shifted, if_neg h.not_lt, if_pos h]
  cases t.leap with
  | false => rw [if_neg Bool.false_ne_true, h, Int.add_zero]
  | true => rfl

/-- A span of a second or more leads to an ordinary second. From a leap second it counts like from
the second before it. -/
theorem shifted_of_pos {d : Span} (h : 0 < d.seconds) (t : Timestamp) :
    t.shifted d = (t.unix + d.seconds, false) := by
  rw [shifted, if_neg (not_lt.mpr h.le), if_neg h.ne', ite_self]

/-- A sum is the timestamp whose parts the addition comes to. -/
theorem plus_eq_ok_iff {t t' : Timestamp} {d : Span} :
    t.plus d = .ok t' ↔ t.shifted d = (t'.unix, t'.leap) := by
  have hsome : ofUnix? (t.shifted d).1 (t.shifted d).2 = some t' ↔
      t'.unix = (t.shifted d).1 ∧ t'.leap = (t.shifted d).2 := ofUnix?_eq_some_iff
  rw [Prod.ext_iff, eq_comm (a := (t.shifted d).1), eq_comm (a := (t.shifted d).2), ← hsome, plus]
  cases ofUnix? (t.shifted d).1 (t.shifted d).2 with
  | none => simp
  | some t'' => simp

/-- A sum is a timestamp if the calendar holds its count of seconds. -/
theorem exists_plus {t : Timestamp} {seconds : Int} (hpos : 0 < seconds)
    (hlatest : t.unix + seconds ≤ latest) : ∃ t', t.plus (.ofSeconds seconds) = .ok t' := by
  have hearliest : earliest ≤ t.unix + seconds := by
    have := t.in_range.1
    omega
  exact ⟨⟨t.unix + seconds, false, ⟨hearliest, hlatest⟩, nofun⟩,
    plus_eq_ok_iff.mpr (shifted_of_pos hpos t)⟩

/-- A sum with a span of a second or more lies later, also where it starts from a leap second. -/
theorem lt_of_plus_span {t t' : Timestamp} {d : Span} (hpos : 0 < d.seconds)
    (h : t.plus d = .ok t') : t < t' := by
  have hparts := plus_eq_ok_iff.mp h
  rw [shifted_of_pos hpos, Prod.mk.injEq] at hparts
  obtain ⟨hunix, hleap⟩ := hparts
  show t.rank < t'.rank
  rw [rank, rank, ← hunix, ← hleap]
  cases t.leap with
  | true =>
      rw [if_pos rfl, if_neg Bool.false_ne_true]
      omega
  | false =>
      rw [if_neg Bool.false_ne_true]
      omega

theorem lt_of_plus {t t' : Timestamp} {seconds : Int} (hpos : 0 < seconds)
    (h : t.plus (.ofSeconds seconds) = .ok t') : t < t' :=
  lt_of_plus_span hpos h

end WalletCredentials.Timestamp

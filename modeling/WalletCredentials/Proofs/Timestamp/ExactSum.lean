import Mathlib.Order.BoundedOrder.Basic
import WalletCredentials.Proofs.Timestamp.Addition

/-!
# Exact sums

A clock that meets a leap second counts it like any other second. The clock of a timestamp meets
the timestamp itself, if that is a leap second, and no other one. On this clock a timestamp and a
span have an exact sum, to the nanosecond: a sum that is answered is the second into which the
exact one falls, and a sum is refused exactly if the exact one lies outside the calendar. Sums with
whole seconds keep the order of timestamps and can be taken in parts, at leap seconds and at the
ends of the calendar as well.
-/

namespace WalletCredentials.Timestamp

variable {t t' u u' v : Timestamp} {d : Span} {a b : Int}

/-! ## The clock of a timestamp -/

/-- The calendar begins with an ordinary second and may end with a leap second. -/
instance : BoundedOrder Timestamp where
  bot := ⟨earliest, false, by decide, nofun⟩
  bot_le t := by
    have hearliest := t.in_range.1
    show 2 * earliest + 0 ≤ 2 * t.unix + if t.leap then 1 else 0
    split <;> omega
  top := ⟨latest, true, by decide, by decide⟩
  le_top t := by
    have hlatest := t.in_range.2
    show 2 * t.unix + (if t.leap then 1 else 0) ≤ 2 * latest + 1
    split <;> omega

example : (⊥ : Timestamp).text = "-262143-01-01T00:00:00Z" := by decide

example : (⊤ : Timestamp).text = "+262142-12-31T23:59:60Z" := by decide

/-- The seconds since 1 January 1970 that the clock of `t` has counted at `u`. It counts `t` as well
if that is a leap second. -/
def elapsed (t u : Timestamp) : Int :=
  u.unix + if t.leap = true ∧ t ≤ u then 1 else 0

theorem elapsed_self (t : Timestamp) : t.elapsed t = t.unix + if t.leap then 1 else 0 := by
  simp [elapsed]

theorem elapsed_bot (t : Timestamp) : t.elapsed ⊥ = earliest := by
  have hleap : ¬(t.leap = true ∧ t ≤ ⊥) := by
    rintro ⟨hleap, hle⟩
    rw [le_bot_iff.mp hle] at hleap
    cases hleap
  rw [elapsed, if_neg hleap]
  exact Int.add_zero _

theorem elapsed_top (t : Timestamp) : t.elapsed ⊤ = latest + if t.leap then 1 else 0 := by
  simp only [elapsed, le_top, and_true]
  rfl

theorem elapsed_mono (h : u ≤ v) : t.elapsed u ≤ t.elapsed v := by
  have hunix := unix_le_of_le h
  rw [elapsed, elapsed]
  by_cases hu : t.leap = true ∧ t ≤ u
  · rw [if_pos hu, if_pos ⟨hu.1, hu.2.trans h⟩]
    omega
  · rw [if_neg hu]
    split <;> omega

/-! ## The second into which an exact sum falls -/

/-- The length of a span in nanoseconds. -/
def Span.inNanos (d : Span) : Int := 1000000000 * d.seconds + d.nanos

/-- Tells that the part of a second in a span is less than a second. -/
def Span.IsNormal (d : Span) : Prop := d.nanos < 1000000000

instance (d : Span) : Decidable d.IsNormal := inferInstanceAs (Decidable (_ < _))

/-- The whole seconds of a span are its nanoseconds without those that are left over. -/
theorem Span.wholeSeconds_eq (hd : d.IsNormal) : d.wholeSeconds = d.inNanos.tdiv 1000000000 := by
  have hsign : Int.sign 1000000000 = 1 := rfl
  rw [IsNormal] at hd
  rw [wholeSeconds, inNanos, Int.tdiv_eq_ediv, hsign]
  split <;> split <;> omega

/-- The nanosecond with which a second begins on the clock of a timestamp. -/
def startOf (t u : Timestamp) : Int := 1000000000 * t.elapsed u

/-- The nanosecond that lies a span after the start of a timestamp, on its own clock. -/
def exactSum (t : Timestamp) (d : Span) : Int := t.startOf t + d.inNanos

/-- Tells that the exact sum of a timestamp and a span falls into a second of the clock. -/
structure FallsInto (t : Timestamp) (d : Span) (u : Timestamp) : Prop where
  /-- The clock meets no other leap second. -/
  on_clock : u.leap = true → u = t
  start_le : t.startOf u ≤ t.exactSum d
  lt_end : t.exactSum d < t.startOf u + 1000000000

/-- Tells that an exact sum lies between the start of the first second of the calendar and the end
of its last one. -/
def IsInRange (t : Timestamp) (d : Span) : Prop :=
  t.startOf ⊥ ≤ t.exactSum d ∧ t.exactSum d < t.startOf ⊤ + 1000000000

instance (t : Timestamp) (d : Span) : Decidable (t.IsInRange d) :=
  inferInstanceAs (Decidable (_ ∧ _))

theorem fallsInto_iff (hd : d.IsNormal) : t.FallsInto d u ↔
    (u.leap = true → u = t) ∧ t.elapsed u = t.elapsed t + d.seconds := by
  rw [Span.IsNormal] at hd
  constructor
  · rintro ⟨hclock, hstart, hend⟩
    simp only [startOf, exactSum, Span.inNanos] at hstart hend
    exact ⟨hclock, by omega⟩
  · rintro ⟨hclock, hseconds⟩
    refine ⟨hclock, ?_, ?_⟩
    · simp only [startOf, exactSum, Span.inNanos]
      omega
    · simp only [startOf, exactSum, Span.inNanos]
      omega

theorem isInRange_iff (hd : d.IsNormal) : t.IsInRange d ↔
    earliest ≤ t.elapsed t + d.seconds ∧
      t.elapsed t + d.seconds ≤ latest + if t.leap then 1 else 0 := by
  rw [Span.IsNormal] at hd
  simp only [IsInRange, startOf, exactSum, Span.inNanos, elapsed_bot, elapsed_top]
  omega

/-- Of the ordinary seconds, the clock of a leap second has counted one more at those after it. -/
theorem elapsed_of_ordinary (hu : u.leap = false) :
    t.elapsed u = u.unix + if t.leap = true ∧ t.unix < u.unix then 1 else 0 := by
  have hle : t.leap = true → (t ≤ u ↔ t.unix < u.unix) := by
    intro ht
    show t.rank ≤ u.rank ↔ t.unix < u.unix
    rw [rank, rank, if_pos ht, hu, if_neg Bool.false_ne_true]
    omega
  simp only [elapsed, and_congr_right hle]

theorem shifted_eq_ordinary_iff (hu : u.leap = false) :
    t.shifted d = (u.unix, false) ↔ t.elapsed u = t.elapsed t + d.seconds := by
  rw [elapsed_of_ordinary hu, elapsed_self]
  cases ht : t.leap with
  | false =>
      rw [shifted_of_ordinary ht]
      simp [eq_comm]
  | true =>
      simp only [if_true, true_and]
      -- The leap second is counted after itself only, and so the cases are the ways to leave it.
      rcases lt_trichotomy d.seconds 0 with hneg | hzero | hpos
      · rw [shifted_of_neg hneg, ht, if_pos rfl, Prod.mk.injEq, and_iff_left rfl]
        split <;> omega
      · rw [shifted_of_eq_zero hzero, ht, hzero, Prod.mk.injEq]
        simp only [Bool.true_eq_false, and_false, false_iff]
        split <;> omega
      · rw [shifted_of_pos hpos, Prod.mk.injEq, and_iff_left rfl]
        split <;> omega

theorem shifted_eq_leap_iff (hu : u.leap = true) :
    t.shifted d = (u.unix, true) ↔ u = t ∧ d.seconds = 0 := by
  rcases lt_trichotomy d.seconds 0 with hneg | hzero | hpos
  · rw [shifted_of_neg hneg]
    simp [hneg.ne]
  · rw [shifted_of_eq_zero hzero, Prod.mk.injEq, and_iff_left hzero]
    constructor
    · rintro ⟨hunix, ht⟩
      exact rank_injective (by rw [rank, rank, hu, ht, hunix])
    · rintro rfl
      exact ⟨rfl, hu⟩
  · rw [shifted_of_pos hpos]
    simp [hpos.ne']

/-- A timestamp moves to the second that its clock meets as many seconds away as the span has. -/
theorem shifted_eq_iff : t.shifted d = (u.unix, u.leap) ↔
    (u.leap = true → u = t) ∧ t.elapsed u = t.elapsed t + d.seconds := by
  cases hu : u.leap with
  | false =>
      rw [shifted_eq_ordinary_iff hu]
      simp
  | true =>
      rw [shifted_eq_leap_iff hu]
      simp only [true_imp_iff]
      refine and_congr_right fun hsame => ?_
      rw [hsame]
      omega

/-- A sum is the second into which the exact sum falls. -/
theorem plus_eq_ok_iff_fallsInto (hd : d.IsNormal) : t.plus d = .ok u ↔ t.FallsInto d u := by
  rw [plus_eq_ok_iff, shifted_eq_iff, fallsInto_iff hd]

theorem leap_last_shifted (t : Timestamp) (d : Span) :
    (t.shifted d).2 = true → (t.shifted d).1 % 60 = 59 := by
  rcases lt_trichotomy d.seconds 0 with hneg | hzero | hpos
  · rw [shifted_of_neg hneg]
    nofun
  · rw [shifted_of_eq_zero hzero]
    exact t.leap_last
  · rw [shifted_of_pos hpos]
    nofun

/-- There is a sum exactly if the exact one lies in the range of the calendar. -/
theorem exists_plus_iff (hd : d.IsNormal) : (∃ u, t.plus d = .ok u) ↔ t.IsInRange d := by
  constructor
  · rintro ⟨u, h⟩
    obtain ⟨-, hstart, hend⟩ := (plus_eq_ok_iff_fallsInto hd).mp h
    have hbot : t.elapsed ⊥ ≤ t.elapsed u := elapsed_mono bot_le
    have htop : t.elapsed u ≤ t.elapsed ⊤ := elapsed_mono le_top
    rw [startOf] at hstart hend
    rw [IsInRange, startOf, startOf]
    omega
  · intro h
    obtain ⟨hearliest, hlatest⟩ := (isInRange_iff hd).mp h
    rw [elapsed_self] at hearliest hlatest
    have ht := t.in_range
    have hrange : earliest ≤ (t.shifted d).1 ∧ (t.shifted d).1 ≤ latest := by
      rcases lt_trichotomy d.seconds 0 with hneg | hzero | hpos
      · rw [shifted_of_neg hneg]
        refine ⟨hearliest, ?_⟩
        dsimp only
        split <;> omega
      · rw [shifted_of_eq_zero hzero]
        exact ht
      · rw [shifted_of_pos hpos]
        exact ⟨by omega, by omega⟩
    exact ⟨⟨_, _, hrange, leap_last_shifted t d⟩, plus_eq_ok_iff.mpr rfl⟩

theorem plus_eq_error_iff (hd : d.IsNormal) {e : InputError} : t.plus d = .error e ↔
    ¬t.IsInRange d ∧ e = .timestampOverflow t.text (d.inNanos.tdiv 1000000000) := by
  rw [← exists_plus_iff hd, ← Span.wholeSeconds_eq hd, plus]
  cases ofUnix? (t.shifted d).1 (t.shifted d).2 with
  | none => simp [eq_comm]
  | some u => simp

/-! ## Whole seconds -/

theorem plus_zero (t : Timestamp) : t.plus (.ofSeconds 0) = .ok t :=
  plus_eq_ok_iff.mpr (shifted_of_eq_zero rfl t)

theorem plus_eq_ok_iff_of_pos (ha : 0 < a) :
    t.plus (.ofSeconds a) = .ok u ↔ u.unix = t.unix + a ∧ u.leap = false := by
  rw [plus_eq_ok_iff, shifted_of_pos ha, Prod.mk.injEq, eq_comm, eq_comm (a := false)]
  rfl

theorem le_of_plus (ha : 0 ≤ a) (h : t.plus (.ofSeconds a) = .ok u) : t ≤ u := by
  rcases ha.eq_or_lt with rfl | hpos
  · rw [plus_zero, Except.ok.injEq] at h
    exact h.le
  · exact (lt_of_plus hpos h).le

/-- What can be added to a timestamp can be added to every one before it, and leads to a timestamp
that is not later. -/
theorem exists_plus_le (hle : t ≤ t') (ha : 0 ≤ a) (h : t'.plus (.ofSeconds a) = .ok u') :
    ∃ u, t.plus (.ofSeconds a) = .ok u ∧ u ≤ u' := by
  rcases ha.eq_or_lt with rfl | hpos
  · rw [plus_zero, Except.ok.injEq] at h
    exact ⟨t, plus_zero t, h ▸ hle⟩
  · obtain ⟨hunix', hleap'⟩ := (plus_eq_ok_iff_of_pos hpos).mp h
    have hunix := unix_le_of_le hle
    have hlatest := u'.in_range.2
    obtain ⟨u, hu⟩ := exists_plus (t := t) hpos (by omega)
    obtain ⟨hunix'', hleap⟩ := (plus_eq_ok_iff_of_pos hpos).mp hu
    refine ⟨u, hu, ?_⟩
    show u.rank ≤ u'.rank
    rw [rank, rank, hleap, hleap']
    omega

/-- Seconds can be added in two parts, and together whenever they can be added in parts. -/
theorem plus_add_iff (ha : 0 ≤ a) (hb : 0 ≤ b) : t.plus (.ofSeconds (a + b)) = .ok v ↔
    ∃ u, t.plus (.ofSeconds a) = .ok u ∧ u.plus (.ofSeconds b) = .ok v := by
  rcases ha.eq_or_lt with rfl | hapos
  · simp [plus_zero]
  rcases hb.eq_or_lt with rfl | hbpos
  · simp [plus_zero]
  rw [plus_eq_ok_iff_of_pos (by omega)]
  constructor
  · rintro ⟨hunix, hleap⟩
    have hlatest := v.in_range.2
    obtain ⟨u, hu⟩ := exists_plus (t := t) hapos (by omega)
    obtain ⟨hunix', -⟩ := (plus_eq_ok_iff_of_pos hapos).mp hu
    exact ⟨u, hu, (plus_eq_ok_iff_of_pos hbpos).mpr ⟨by omega, hleap⟩⟩
  · rintro ⟨u, hu, hv⟩
    obtain ⟨hunix, -⟩ := (plus_eq_ok_iff_of_pos hapos).mp hu
    obtain ⟨hunix', hleap⟩ := (plus_eq_ok_iff_of_pos hbpos).mp hv
    exact ⟨by omega, hleap⟩

theorem unix_of_plus (ht : t.leap = false) (h : t.plus (.ofSeconds a) = .ok u) :
    u.unix = t.unix + a := by
  rw [plus_eq_ok_iff, shifted_of_ordinary ht, Prod.mk.injEq] at h
  exact h.1.symm

/-- Adding whole seconds keeps the order of timestamps, leads to no earlier one and can be done in
two parts, leap seconds included; from an ordinary second it adds to the count of seconds. For
every span the sum is the second into which the exact sum falls, and it is refused exactly if the
exact sum lies outside the calendar, with the timestamp and the whole seconds of the span named. -/
theorem plus_ordered_and_additive :
    (∀ (t t' u' : Timestamp) (a : Int), t ≤ t' → 0 ≤ a → t'.plus (.ofSeconds a) = .ok u' →
      ∃ u, t.plus (.ofSeconds a) = .ok u ∧ u ≤ u') ∧
    (∀ (t u : Timestamp) (a : Int), 0 ≤ a → t.plus (.ofSeconds a) = .ok u → t ≤ u) ∧
    (∀ (t v : Timestamp) (a b : Int), 0 ≤ a → 0 ≤ b → (t.plus (.ofSeconds (a + b)) = .ok v ↔
      ∃ u, t.plus (.ofSeconds a) = .ok u ∧ u.plus (.ofSeconds b) = .ok v)) ∧
    (∀ (t u : Timestamp) (a : Int), t.leap = false → t.plus (.ofSeconds a) = .ok u →
      u.unix = t.unix + a) ∧
    ∀ (t : Timestamp) (d : Span), d.IsNormal →
      (∀ u, t.plus d = .ok u ↔ t.FallsInto d u) ∧
      ∀ e, t.plus d = .error e ↔
        ¬t.IsInRange d ∧ e = .timestampOverflow t.text (d.inNanos.tdiv 1000000000) := by
  refine ⟨?ordered, ?later, ?additive, ?counted, ?exact⟩
  case ordered =>
    intro t t' u' a hle ha h
    exact exists_plus_le hle ha h
  case later =>
    intro t u a ha h
    exact le_of_plus ha h
  case additive =>
    intro t v a b ha hb
    exact plus_add_iff ha hb
  case counted =>
    intro t u a ht h
    exact unix_of_plus ht h
  case exact =>
    intro t d hd
    exact ⟨fun u => plus_eq_ok_iff_fallsInto hd, fun e => plus_eq_error_iff hd⟩

/-- Sums from the leap second before the last minute of the calendar and from the second after it,
and sums that run past either end. -/
theorem plus_at_ends_of_calendar :
    let t : Timestamp := ⟨latest - 60, true, by decide, by decide⟩
    let t' : Timestamp := ⟨latest - 59, false, by decide, nofun⟩
    let last : Timestamp := ⟨latest, false, by decide, nofun⟩
    (t ≤ t' ∧ t'.plus (.ofSeconds 59) = .ok last ∧
      ∃ u, t.plus (.ofSeconds 59) = .ok u ∧ u ≤ last) ∧
    (t.plus (.ofSeconds 60) = .ok last ∧ t ≤ last ∧
      ∃ u, t.plus (.ofSeconds 59) = .ok u ∧ u.plus (.ofSeconds 1) = .ok last) ∧
    (t'.leap = false ∧ last.unix = t'.unix + 59) ∧
    (⊤ : Timestamp).plus ⟨0, 999999999⟩ = .ok ⊤ ∧
    (⊤ : Timestamp).plus ⟨1, 500000000⟩ =
      .error (.timestampOverflow "+262142-12-31T23:59:60Z" 1) ∧
    (⊥ : Timestamp).plus ⟨-1, 500000000⟩ =
      .error (.timestampOverflow "-262143-01-01T00:00:00Z" 0) := by
  intro t t' last
  obtain ⟨hordered, hlater, hadditive, hcounted, hexact⟩ := plus_ordered_and_additive
  have hle : t ≤ t' := by decide
  have hnext : t'.plus (.ofSeconds 59) = .ok last := plus_eq_ok_iff.mpr rfl
  have hminute : t.plus (.ofSeconds 60) = .ok last := plus_eq_ok_iff.mpr rfl
  have htop : (⊤ : Timestamp).text = "+262142-12-31T23:59:60Z" := by decide
  have hbot : (⊥ : Timestamp).text = "-262143-01-01T00:00:00Z" := by decide
  refine ⟨⟨hle, hnext, hordered t t' last 59 hle (by decide) hnext⟩,
    ⟨hminute, hlater t last 60 (by decide) hminute,
      (hadditive t last 59 1 (by decide) (by decide)).mp hminute⟩,
    ⟨rfl, hcounted t' last 59 rfl hnext⟩, ?_, ?_, ?_⟩
  · exact ((hexact ⊤ ⟨0, 999999999⟩ (by decide)).1 ⊤).mpr ⟨fun _ => rfl, by decide, by decide⟩
  · exact ((hexact ⊤ ⟨1, 500000000⟩ (by decide)).2 _).mpr ⟨by decide, by rw [htop]; rfl⟩
  · exact ((hexact ⊥ ⟨-1, 500000000⟩ (by decide)).2 _).mpr ⟨by decide, by rw [hbot]; rfl⟩

end WalletCredentials.Timestamp

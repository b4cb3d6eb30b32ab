import Mathlib.Tactic.Common

/-!
# Results of operations

An operation that runs others in turn comes to a value exactly if each of them does, and it fails
as one of them fails. The lemmas here take such a run apart, so that the operations themselves need
not be opened.
-/

namespace WalletCredentials

variable {ε ε' α β : Type}

@[simp] theorem ok_bind (a : α) (f : α → Except ε β) : (Except.ok a >>= f) = f a := rfl

@[simp] theorem error_bind (e : ε) (f : α → Except ε β) :
    ((Except.error e : Except ε α) >>= f) = .error e := rfl

@[simp] theorem mapError_ok (f : ε → ε') (a : α) : (Except.ok a).mapError f = .ok a := rfl

@[simp] theorem mapError_error (f : ε → ε') (e : ε) :
    (Except.error e : Except ε α).mapError f = .error (f e) := rfl

/-- A run comes to a value if its first part does and the rest does from there. -/
theorem bind_eq_ok_iff {x : Except ε α} {f : α → Except ε β} {b : β} :
    (x >>= f) = .ok b ↔ ∃ a, x = .ok a ∧ f a = .ok b := by
  cases x with
  | ok a => simp
  | error e => simp

/-- A run that may be given up comes to a value if it is not given up and the rest does. -/
theorem ite_throw_eq_ok_iff {c : Prop} [Decidable c] {e : ε} {f : Unit → Except ε β} {b : β} :
    (if c then (throw e : Except ε Unit) >>= f else f ()) = .ok b ↔ ¬c ∧ f () = .ok b := by
  by_cases h : c
  · rw [if_pos h]
    constructor
    · intro hf
      cases hf
    · intro hf
      exact absurd h hf.1
  · rw [if_neg h]
    exact (and_iff_right h).symm

theorem pure_eq_ok_iff {a b : α} : (pure a : Except ε α) = .ok b ↔ b = a := by
  constructor
  · intro h
    cases h
    rfl
  · rintro rfl
    rfl

theorem throw_unless_eq_ok_iff {c : Prop} [Decidable c] {e : ε} :
    (if c then throw e else pure () : Except ε Unit) = .ok () ↔ ¬c := by
  by_cases h : c
  · simp [h, throw, throwThe, MonadExceptOf.throw]
  · simp [h, pure, Except.pure]

theorem toOption_eq_some_iff {x : Except ε α} {a : α} : x.toOption = some a ↔ x = .ok a := by
  cases x with
  | ok a' => simp [Except.toOption]
  | error e => simp [Except.toOption]

theorem exists_error_of_toOption {x : Except ε α} (h : x.toOption = none) : ∃ e, x = .error e := by
  cases x with
  | ok a => cases h
  | error e => exact ⟨e, rfl⟩

theorem mapError_eq_ok_iff {x : Except ε α} {f : ε → ε'} {a : α} :
    x.mapError f = .ok a ↔ x = .ok a := by
  cases x with
  | ok a' => simp
  | error e => simp

/-! ## Failures -/

/-- Tells that a run fails only in ways that have a property. -/
def FailsOnly (P : ε → Prop) (x : Except ε α) : Prop := ∀ e, x = .error e → P e

namespace FailsOnly

variable {P : ε → Prop} {x : Except ε α}

theorem ok (a : α) : FailsOnly P (.ok a) := nofun

theorem error {e : ε} (h : P e) : FailsOnly P (.error e : Except ε α) := by
  intro e' he
  cases he
  exact h

theorem bind {f : α → Except ε β} (hx : FailsOnly P x) (hf : ∀ a, FailsOnly P (f a)) :
    FailsOnly P (x >>= f) := by
  intro e he
  cases hrun : x with
  | ok a =>
      rw [hrun] at he
      exact hf a e he
  | error e' =>
      rw [hrun] at he
      cases he
      exact hx e hrun

theorem map (f : α → β) (h : FailsOnly P x) : FailsOnly P (x.map f) := by
  intro e he
  cases hrun : x with
  | ok a =>
      rw [hrun] at he
      cases he
  | error e' =>
      rw [hrun] at he
      cases he
      exact h e hrun

theorem mapError {Q : ε' → Prop} {f : ε → ε'} (h : FailsOnly (fun e => Q (f e)) x) :
    FailsOnly Q (x.mapError f) := by
  intro e he
  cases hrun : x with
  | ok a =>
      rw [hrun] at he
      cases he
  | error e' =>
      rw [hrun] at he
      cases he
      exact h e' hrun

theorem ite {c : Prop} [Decidable c] {y : Except ε α} (hx : FailsOnly P x) (hy : FailsOnly P y) :
    FailsOnly P (if c then x else y) := by
  split
  · exact hx
  · exact hy

/-- A run that may be given up fails as it is given up or as the rest fails. -/
theorem ite_throw {c : Prop} [Decidable c] {e : ε} {f : Unit → Except ε β} (he : P e)
    (hf : FailsOnly P (f ())) :
    FailsOnly P (if c then (throw e : Except ε Unit) >>= f else f ()) := by
  split
  · exact error he
  · exact hf

/-- A run that comes to a value whatever happens does not fail. -/
theorem of_eq_ok {a : α} (h : x = .ok a) : FailsOnly P x := by
  rw [h]
  exact ok a

end FailsOnly

end WalletCredentials

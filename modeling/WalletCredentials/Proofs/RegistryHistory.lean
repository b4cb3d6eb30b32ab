import Mathlib.Data.List.Induction
import WalletCredentials.Proofs.Registry

/-!
# Registries and their histories

What a registry yields is told by the steps that led to it: the value that was put last under the
key, with the changes since then. Times may go backwards, so that a value out of reach comes back
into reach, unless an eviction came in between. One step deals with the entry under a key whatever
stands under other keys, and what holds after a run follows by induction on its last step.
-/

namespace WalletCredentials.Registry

variable {α : Type}

/-- What can be done to a registry. -/
inductive Step (α : Type)
  | put (key : String) (value : α) (expiry : Timestamp)
  | get (key : String) (now : Timestamp)
  | update (key : String) (now : Timestamp) (change : α → α)
  | delete (key : String)
  | evict (now : Timestamp)

namespace Step

/-- The registry after a step. -/
def perform (registry : Registry α) : Step α → Registry α
  | put key value expiry => (registry.put key value expiry).2
  | get _ _ => registry
  | update key now change => (registry.update key now change).2
  | delete key => (registry.delete key).2
  | evict now => (registry.evict now).2

/-- The key that a step is about. An eviction is about none. -/
def key? : Step α → Option String
  | put key _ _ | get key _ | update key _ _ | delete key => some key
  | evict _ => none

/-- Tells that a step puts something under a key or takes out what stands there. -/
def Replaces (key : String) : Step α → Prop
  | put k _ _ | delete k => k = key
  | _ => False

/-- Tells that a step evicts what may be used through a time. -/
def Evicts (expiry : Timestamp) : Step α → Prop
  | evict now => expiry < now
  | _ => False

/-- What a step makes of a value that stands under a key and may be used through a time, if it
leaves it there. -/
def changed (key : String) (expiry : Timestamp) (value : α) : Step α → α
  | update k now change => if k = key ∧ now ≤ expiry then change value else value
  | _ => value

end Step

/-- Tells that steps leave an entry under a key: a value was put there, nothing has replaced or
evicted it since, and the changes since have made of it what stands there. -/
def IsLeft (steps : List (Step α)) (key : String) (entry : Entry α) : Prop :=
  ∃ before first rest, steps = before ++ .put key first entry.expiry :: rest ∧
    (∀ step ∈ rest, ¬step.Replaces key) ∧ (∀ step ∈ rest, ¬step.Evicts entry.expiry) ∧
    entry.value = rest.foldl (Step.changed key entry.expiry) first

/-- The registry after steps that are performed in turn. -/
def after (registry : Registry α) (steps : List (Step α)) : Registry α :=
  steps.foldl Step.perform registry

theorem after_concat (registry : Registry α) (steps : List (Step α)) (step : Step α) :
    registry.after (steps ++ [step]) = step.perform (registry.after steps) :=
  List.foldl_concat ..

/-! ## One step -/

theorem stored?_delete (registry : Registry α) (key k : String) :
    stored? (registry.delete k).2 key = if k = key then none else registry.stored? key :=
  Dictionary.find?_erase key k registry.entries

/-- A step that is about another key leaves what stands under a key. -/
theorem stored?_perform_of_ne {step : Step α} {key k : String} (registry : Registry α)
    (hstep : step.key? = some k) (hne : k ≠ key) :
    stored? (step.perform registry) key = registry.stored? key := by
  cases step with
  | put k' value expiry =>
      cases hstep
      exact (stored?_put ..).trans (if_neg hne)
  | get k' now => rfl
  | update k' now change =>
      cases hstep
      exact (stored?_update ..).trans (if_neg fun h => hne h.1)
  | delete k' =>
      cases hstep
      exact (stored?_delete ..).trans (if_neg hne)
  | evict now => cases hstep

theorem live?_of_stands {registry : Registry α} {key : String} {entry : Entry α} (now : Timestamp)
    (h : registry.stored? key = some entry) :
    registry.live? key now = if now ≤ entry.expiry then some entry else none := by
  rw [live?, h, Option.filter_some]
  simp only [Entry.isLive_eq_true_iff]

/-- An update changes the value under its key while it may be used, and nothing else. -/
theorem stored?_perform_update (registry : Registry α) (key k : String) (now : Timestamp)
    (change : α → α) :
    stored? ((Step.update k now change).perform registry) key = (registry.stored? key).map fun e =>
      ⟨(Step.update k now change).changed key e.expiry e.value, e.expiry⟩ := by
  rw [Step.perform, stored?_update]
  by_cases hk : k = key
  · subst hk
    cases hentry : registry.stored? k with
    | none => simp
    | some entry =>
        rw [live?_of_stands now hentry]
        by_cases hlive : now ≤ entry.expiry
        · simp [Step.changed, hlive]
        · simp [Step.changed, hlive]
  · simp [Step.changed, hk]

/-- A step that puts nothing under a key finds the entry there that it leaves. It has not evicted
the entry, but it may have changed its value. -/
theorem stored?_perform_eq_some_iff {registry : Registry α} {step : Step α} {key : String}
    {entry : Entry α} (hstep : ¬step.Replaces key) :
    stored? (step.perform registry) key = some entry ↔
      ¬step.Evicts entry.expiry ∧ ∃ value, registry.stored? key = some ⟨value, entry.expiry⟩ ∧
        entry.value = step.changed key entry.expiry value := by
  -- Only an update changes a value, and only an eviction looks at the time of an entry.
  cases step with
  | put k value expiry =>
      rw [stored?_perform_of_ne registry rfl hstep]
      simp [Step.Evicts, Step.changed]
  | get k now => simp [Step.perform, Step.Evicts, Step.changed]
  | update k now change =>
      rw [stored?_perform_update, Option.map_eq_some_iff]
      constructor
      · rintro ⟨⟨value, expiry⟩, hentry, rfl⟩
        exact ⟨id, value, hentry, rfl⟩
      · rintro ⟨-, value, hentry, hvalue⟩
        exact ⟨_, hentry, by rw [← hvalue]⟩
  | delete k =>
      rw [stored?_perform_of_ne registry rfl hstep]
      simp [Step.Evicts, Step.changed]
  | evict now =>
      rw [Step.perform, stored?_evict, live?_eq_some_iff]
      simp [Step.Evicts, Step.changed, and_comm]

/-- A step that replaces what stands under a key leaves an entry there only by putting it there. -/
theorem stored?_perform_of_replaces {registry : Registry α} {step : Step α} {key : String}
    {entry : Entry α} (hstep : step.Replaces key) :
    stored? (step.perform registry) key = some entry ↔
      step = .put key entry.value entry.expiry := by
  cases step with
  | put k value expiry =>
      cases hstep
      obtain ⟨value', expiry'⟩ := entry
      rw [Step.perform, stored?_put, if_pos rfl]
      simp
  | delete k =>
      cases hstep
      rw [Step.perform, stored?_delete, if_pos rfl]
      simp
  | _ => cases hstep

/-! ## Runs -/

/-- One more step leaves an entry if it puts it there, or if the entry was left before and the step
neither replaces nor evicts it. -/
theorem isLeft_concat {steps : List (Step α)} {step : Step α} {key : String} {entry : Entry α} :
    IsLeft (steps ++ [step]) key entry ↔
      step = .put key entry.value entry.expiry ∨
      ¬step.Replaces key ∧ ¬step.Evicts entry.expiry ∧
        ∃ value, IsLeft steps key ⟨value, entry.expiry⟩ ∧
          entry.value = step.changed key entry.expiry value := by
  constructor
  · rintro ⟨before, first, rest, hsteps, hreplaces, hevicts, hvalue⟩
    induction rest using List.reverseRecOn with
    | nil =>
        left
        obtain ⟨-, hstep⟩ := List.append_inj' hsteps rfl
        rw [List.singleton_inj] at hstep
        rw [hvalue]
        exact hstep
    | append_singleton rest last =>
        right
        rw [← List.cons_append, ← List.append_assoc] at hsteps
        obtain ⟨hbefore, hlast⟩ := List.append_inj' hsteps rfl
        rw [List.singleton_inj] at hlast
        subst hlast
        rw [List.foldl_concat] at hvalue
        have hmem : step ∈ rest ++ [step] := by simp
        refine ⟨hreplaces step hmem, hevicts step hmem,
          rest.foldl (Step.changed key entry.expiry) first,
          ⟨before, first, rest, hbefore, ?_, ?_, rfl⟩, hvalue⟩
        · intro s hs
          exact hreplaces s (List.mem_append_left _ hs)
        · intro s hs
          exact hevicts s (List.mem_append_left _ hs)
  · rintro (rfl | ⟨hreplaces, hevicts, value, ⟨before, first, rest, rfl, hrestReplaces, hrestEvicts,
      hvalue⟩, hlast⟩)
    · exact ⟨steps, entry.value, [], rfl, by simp, by simp, rfl⟩
    · refine ⟨before, first, rest ++ [step], by simp, ?_, ?_, ?_⟩
      · simpa [or_imp, forall_and] using ⟨hrestReplaces, hreplaces⟩
      · simpa [or_imp, forall_and] using ⟨hrestEvicts, hevicts⟩
      · rw [List.foldl_concat, ← hvalue]
        exact hlast

/-- After a run the entry that stands under a key is the one that its steps leave there. -/
theorem stored?_after_eq_some_iff {steps : List (Step α)} {key : String} {entry : Entry α} :
    stored? ((empty : Registry α).after steps) key = some entry ↔ IsLeft steps key entry := by
  induction steps using List.reverseRecOn generalizing entry with
  | nil =>
      constructor
      · intro h
        cases h
      · rintro ⟨before, first, rest, hsteps, -⟩
        simp at hsteps
  | append_singleton steps step ih =>
      rw [after_concat, isLeft_concat]
      by_cases hstep : step.Replaces key
      · rw [stored?_perform_of_replaces hstep]
        simp [hstep]
      · rw [stored?_perform_eq_some_iff hstep]
        have hput : step ≠ .put key entry.value entry.expiry := by
          rintro rfl
          exact hstep rfl
        simp only [ih, hstep, hput, not_false_eq_true, true_and, false_or]

/-! ## Calls of the function of an update -/

/-- An update by a function that may have effects of its own. -/
def updateM {m : Type → Type} [Monad m] (registry : Registry α) (key : String) (now : Timestamp)
    (change : α → m α) : m (Option α × Registry α) :=
  match registry.live? key now with
  | some entry => do
      let value ← change entry.value
      return (some value, registry.set key { entry with value := value })
  | none => return (none, registry)

/-- Without effects such an update is the update of a registry. -/
theorem updateM_pure (registry : Registry α) (key : String) (now : Timestamp) (change : α → α) :
    Id.run (registry.updateM key now fun value => pure (change value)) =
      registry.update key now change := by
  rw [updateM, update]
  cases registry.live? key now with
  | none => rfl
  | some entry => rfl

/-- A function that counts its calls. -/
def counted (change : α → α) (value : α) : StateM Nat α := fun calls => (change value, calls + 1)

/-- An update calls its function once if it finds a value, and not at all otherwise. -/
theorem updateM_counted (registry : Registry α) (key : String) (now : Timestamp) (change : α → α)
    (calls : Nat) :
    registry.updateM key now (counted change) calls =
      (registry.update key now change,
        if (registry.update key now change).1.isSome then calls + 1 else calls) := by
  rw [updateM, update]
  cases registry.live? key now with
  | none => rfl
  | some entry => rfl

/-! ## What a history tells -/

/-- An update finds what stands under its key right after it. -/
theorem fst_update (registry : Registry α) (key : String) (now : Timestamp) (change : α → α) :
    (registry.update key now change).1 = (registry.update key now change).2.get? key now := by
  cases hlive : registry.live? key now with
  | none =>
      rw [update_of_not_live change hlive, get?, hlive]
      rfl
  | some entry =>
      have hnow := (live?_eq_some_iff.mp hlive).2
      rw [update_of_live change hlive]
      symm
      rw [get?_eq_some_iff]
      exact ⟨entry.expiry, (stored?_set ..).trans (if_pos rfl), hnow⟩

/-- An eviction hides what may not be used at its time, and nothing else. -/
theorem get?_evict (registry : Registry α) (key : String) (now later : Timestamp) :
    (registry.evict now).2.get? key later =
      if (registry.get? key now).isSome then registry.get? key later else none := by
  have hlive : (registry.evict now).2.get? key later =
      ((registry.live? key now).filter (·.isLive later)).map (·.value) := by
    rw [get?, live?, stored?_evict]
  rw [hlive, get?, Option.isSome_map]
  cases hnow : registry.live? key now with
  | none => rfl
  | some entry =>
      have hentry := (live?_eq_some_iff.mp hnow).1
      rw [Option.isSome_some, if_pos rfl, get?, live?, hentry]

/-- Tells that what a registry yields is told by steps. -/
structure IsToldBy (registry : Registry α) (steps : List (Step α)) : Prop where
  /-- A value is found if it is what the changes have made of the last value that was put under the
  key. It has not been deleted or evicted since, and its time has not passed. -/
  get?_iff : ∀ key now value, registry.get? key now = some value ↔
    ∃ before first expiry rest, steps = before ++ .put key first expiry :: rest ∧
      (∀ step ∈ rest, ¬step.Replaces key) ∧ (∀ step ∈ rest, ¬step.Evicts expiry) ∧
      now ≤ expiry ∧ value = rest.foldl (Step.changed key expiry) first
  /-- An update finds what would be found right after it. -/
  fst_update : ∀ key now change,
    (registry.update key now change).1 = (registry.update key now change).2.get? key now
  /-- An update calls its function once if it finds a value, and not at all otherwise. -/
  calls_update : ∀ key now change,
    Id.run (registry.updateM key now fun value => pure (change value)) =
        registry.update key now change ∧
      ∀ calls, registry.updateM key now (counted change) calls =
        (registry.update key now change,
          if (registry.update key now change).1.isSome then calls + 1 else calls)
  /-- A step that is about a key changes nothing of what another key yields. -/
  others : ∀ (step : Step α) k key, step.key? = some k → k ≠ key →
    stored? (step.perform registry) key = registry.stored? key ∧
      ∀ now, (step.perform registry).get? key now = registry.get? key now
  /-- An eviction hides only what may not be used at its time. -/
  get?_evict : ∀ now key later, (registry.evict now).2.get? key later =
    if (registry.get? key now).isSome then registry.get? key later else none

/-- What a registry yields after a run is told by the steps of the run. -/
theorem isToldBy_after (steps : List (Step α)) :
    ((empty : Registry α).after steps).IsToldBy steps where
  get?_iff key now value := by
    rw [get?_eq_some_iff]
    simp only [stored?_after_eq_some_iff]
    constructor
    · rintro ⟨expiry, ⟨before, first, rest, hsteps, hreplaces, hevicts, hvalue⟩, hnow⟩
      exact ⟨before, first, expiry, rest, hsteps, hreplaces, hevicts, hnow, hvalue⟩
    · rintro ⟨before, first, expiry, rest, hsteps, hreplaces, hevicts, hnow, hvalue⟩
      exact ⟨expiry, ⟨before, first, rest, hsteps, hreplaces, hevicts, hvalue⟩, hnow⟩
  fst_update key now change := fst_update _ key now change
  calls_update key now change :=
    ⟨updateM_pure _ key now change, updateM_counted _ key now change⟩
  others step k key hstep hne := by
    have hentry := stored?_perform_of_ne ((empty : Registry α).after steps) hstep hne
    refine ⟨hentry, fun now => ?_⟩
    rw [get?, get?, live?, live?, hentry]
  get?_evict now key later := get?_evict _ key now later

end WalletCredentials.Registry

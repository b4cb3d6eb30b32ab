import WalletCredentials.Proofs.Dictionary
import WalletCredentials.Proofs.Timestamp.Order
import WalletCredentials.Registry

/-!
# Entries of registries

What each operation on a registry does to the entry under a key, and how registries compare of
which one has been rid of entries that are used up.
-/

namespace WalletCredentials.Registry

variable {α : Type}

theorem Entry.isLive_eq_true_iff {entry : Entry α} {now : Timestamp} :
    entry.isLive now = true ↔ now ≤ entry.expiry := by
  simp [Entry.isLive, Timestamp.isPassedAt_eq_false_iff]

theorem stored?_set (registry : Registry α) (key k : String) (entry : Entry α) :
    stored? (registry.set k entry) key = if k = key then some entry else registry.stored? key :=
  Dictionary.find?_insert key k entry registry.entries

/-- Registries are equal as soon as they have the same entry under every key. -/
theorem ext_stored? {registry registry' : Registry α}
    (h : ∀ key, registry.stored? key = registry'.stored? key) : registry = registry' := by
  obtain ⟨entries, hsorted⟩ := registry
  obtain ⟨entries', hsorted'⟩ := registry'
  have heq : entries = entries' := hsorted.eq_of_find? hsorted' h
  subst heq
  rfl

/-- Setting an entry changes nothing exactly if it is the one that stands there. -/
theorem set_eq_self_iff {registry : Registry α} {key : String} {entry : Entry α} :
    registry.set key entry = registry ↔ registry.stored? key = some entry := by
  constructor
  · intro h
    rw [← h, stored?_set, if_pos rfl]
  · intro h
    refine ext_stored? fun k => ?_
    rw [stored?_set]
    split
    · rename_i hk
      rw [← hk, h]
    · rfl

theorem stored?_put (registry : Registry α) (key k : String) (value : α) (expiry : Timestamp) :
    stored? (registry.put k value expiry).2 key =
      if k = key then some ⟨value, expiry⟩ else registry.stored? key :=
  stored?_set registry key k ⟨value, expiry⟩

theorem stored?_evict (registry : Registry α) (key : String) (now : Timestamp) :
    stored? (registry.evict now).2 key = registry.live? key now :=
  registry.sorted.find?_filter _ key

theorem live?_eq_some_iff {registry : Registry α} {key : String} {now : Timestamp}
    {entry : Entry α} :
    registry.live? key now = some entry ↔
      registry.stored? key = some entry ∧ now ≤ entry.expiry := by
  rw [live?, Option.filter_eq_some_iff, Entry.isLive_eq_true_iff]

/-- A value may be used while its entry stands and its time has not passed. -/
theorem get?_eq_some_iff {registry : Registry α} {key : String} {now : Timestamp} {value : α} :
    registry.get? key now = some value ↔
      ∃ expiry, registry.stored? key = some ⟨value, expiry⟩ ∧ now ≤ expiry := by
  rw [get?, Option.map_eq_some_iff]
  constructor
  · rintro ⟨⟨value', expiry⟩, h, rfl⟩
    exact ⟨expiry, live?_eq_some_iff.mp h⟩
  · rintro ⟨expiry, h⟩
    exact ⟨⟨value, expiry⟩, live?_eq_some_iff.mpr h, rfl⟩

theorem update_of_live {registry : Registry α} {key : String} {now : Timestamp}
    {entry : Entry α} (change : α → α) (h : registry.live? key now = some entry) :
    registry.update key now change =
      (some (change entry.value), registry.set key { entry with value := change entry.value }) := by
  rw [update, h]

theorem update_of_not_live {registry : Registry α} {key : String} {now : Timestamp}
    (change : α → α) (h : registry.live? key now = none) :
    registry.update key now change = (none, registry) := by
  rw [update, h]

/-- An update changes the value of a live entry under its own key, and nothing else. -/
theorem stored?_update (registry : Registry α) (key k : String) (now : Timestamp)
    (change : α → α) :
    stored? (registry.update k now change).2 key =
      if k = key ∧ (registry.live? k now).isSome then
        (registry.stored? key).map fun e => { e with value := change e.value }
      else registry.stored? key := by
  cases h : registry.live? k now with
  | none => simp [update_of_not_live change h]
  | some entry =>
      have hentry := (live?_eq_some_iff.mp h).1
      rw [update_of_live change h, stored?_set]
      by_cases hk : k = key
      · subst hk
        simp [hentry]
      · simp [hk]

/-- Registries with the same entry under a key offer the same of it for use. -/
theorem live?_congr {registry registry' : Registry α} {key : String}
    (h : registry.stored? key = registry'.stored? key) (now : Timestamp) :
    registry.live? key now = registry'.live? key now := by
  rw [live?, live?, h]

/-- An update makes the same of the same entry. -/
theorem stored?_update_congr {registry registry' : Registry α} {key : String}
    (h : registry.stored? key = registry'.stored? key) (now : Timestamp) (change : α → α) :
    stored? (registry.update key now change).2 key =
      stored? (registry'.update key now change).2 key := by
  rw [stored?_update, stored?_update, live?_congr h, h]

/-! ## Used-up entries -/

/-- What may no longer be used never may be again. -/
theorem live?_eq_none_of_le {registry : Registry α} {key : String} {now later : Timestamp}
    (h : registry.live? key now = none) (hlater : now ≤ later) :
    registry.live? key later = none := by
  rw [Option.eq_none_iff_forall_ne_some] at h ⊢
  intro entry hentry
  obtain ⟨hstands, hexpiry⟩ := live?_eq_some_iff.mp hentry
  exact h entry (live?_eq_some_iff.mpr ⟨hstands, hlater.trans hexpiry⟩)

/-- An eviction counts the entries that it takes out. -/
theorem fst_evict_add_size (registry : Registry α) (now : Timestamp) :
    (registry.evict now).1 + (registry.evict now).2.size = registry.size :=
  Nat.sub_add_cancel (List.length_filter_le _ _)

/-- Tells that a registry is what is left of another one after some of the entries were taken out
that may no longer be used at a time. -/
def IsRestOf (rest full : Registry α) (now : Timestamp) : Prop :=
  ∀ key, rest.stored? key = full.stored? key ∨
    rest.stored? key = none ∧ full.live? key now = none

namespace IsRestOf

variable {rest full : Registry α} {now : Timestamp}

theorem refl (registry : Registry α) (now : Timestamp) : registry.IsRestOf registry now :=
  fun _ => .inl rfl

theorem mono {later : Timestamp} (h : rest.IsRestOf full now) (hlater : now ≤ later) :
    rest.IsRestOf full later := by
  intro key
  rcases h key with hsame | ⟨hgone, hpast⟩
  · exact .inl hsame
  · exact .inr ⟨hgone, live?_eq_none_of_le hpast hlater⟩

/-- The rest of a registry holds everything that may be used. -/
theorem live?_eq (h : rest.IsRestOf full now) (key : String) :
    rest.live? key now = full.live? key now := by
  rcases h key with hsame | ⟨hgone, hpast⟩
  · rw [live?, live?, hsame]
  · rw [hpast, live?, hgone]
    rfl

theorem get?_eq (h : rest.IsRestOf full now) (key : String) :
    rest.get? key now = full.get? key now := by
  rw [get?, get?, h.live?_eq]

theorem set (h : rest.IsRestOf full now) (key : String) (entry : Entry α) :
    (rest.set key entry).IsRestOf (full.set key entry) now := by
  intro k
  by_cases hk : key = k
  · left
    rw [stored?_set, stored?_set, if_pos hk, if_pos hk]
  · rw [live?, stored?_set, stored?_set, if_neg hk, if_neg hk]
    exact h k

/-- An eviction from the rest only takes out more of what is used up. -/
theorem evict (h : rest.IsRestOf full now) : (rest.evict now).2.IsRestOf full now := by
  intro key
  rw [stored?_evict, h.live?_eq]
  cases hlive : full.live? key now with
  | none => exact .inr ⟨rfl, rfl⟩
  | some entry => exact .inl (live?_eq_some_iff.mp hlive).1.symm

/-- An eviction leaves the same of a registry as of its rest. -/
theorem evict_eq (h : rest.IsRestOf full now) : (rest.evict now).2 = (full.evict now).2 := by
  apply ext_stored?
  intro key
  rw [stored?_evict, stored?_evict, h.live?_eq]

/-- An eviction takes out of a registry what it takes out of its rest, and all that the rest
lacks. -/
theorem fst_evict_add_size (h : rest.IsRestOf full now) :
    (full.evict now).1 + rest.size = (rest.evict now).1 + full.size := by
  have hfull := Registry.fst_evict_add_size full now
  have hrest := Registry.fst_evict_add_size rest now
  rw [h.evict_eq] at hrest
  omega

end IsRestOf

/-- An eviction leaves a rest. -/
theorem isRestOf_evict (registry : Registry α) (now : Timestamp) :
    (registry.evict now).2.IsRestOf registry now :=
  (IsRestOf.refl registry now).evict

end WalletCredentials.Registry

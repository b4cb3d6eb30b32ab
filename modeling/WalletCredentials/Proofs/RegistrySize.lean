import WalletCredentials.Exchange.Stores
import WalletCredentials.Proofs.RegistryHistory

/-!
# The number of entries of registries

The size of a registry is accounted for by what the steps of its history have answered: a put that
found nothing adds an entry, a deletion that found something takes one out, and an eviction takes
out as many as it counts. Evictions at two times do what one at the later time does, in whichever
order they come, and their counts add up to its count.
-/

namespace WalletCredentials

namespace Registry

variable {α : Type}

/-! ## Two evictions -/

theorem Entry.isLive_max (entry : Entry α) (a b : Timestamp) :
    entry.isLive (max a b) = (entry.isLive a && entry.isLive b) := by
  rw [Bool.eq_iff_iff, Bool.and_eq_true]
  simp only [Entry.isLive_eq_true_iff, max_le_iff]

/-- What two evictions leave may be used at the later of their times. -/
theorem snd_evict_evict (registry : Registry α) (a b : Timestamp) :
    ((registry.evict a).2.evict b).2 = (registry.evict (max a b)).2 := by
  apply ext_stored?
  intro key
  rw [stored?_evict, live?, stored?_evict, stored?_evict, live?, live?, Option.filter_filter]
  simp only [Entry.isLive_max]

/-- Tells that evictions take out what is used up, at two times as one at the later time does, and
that an eviction does nothing more when it is repeated. -/
structure EvictsAtLater (registry : Registry α) (a b : Timestamp) : Prop where
  /-- An eviction leaves the entries that may be used at its time, as they are, and no other. -/
  stored : ∀ key entry, stored? (registry.evict a).2 key = some entry ↔
    registry.stored? key = some entry ∧ a ≤ entry.expiry
  left : ((registry.evict a).2.evict b).2 = (registry.evict (max a b)).2
  counts : (registry.evict a).1 + ((registry.evict a).2.evict b).1 = (registry.evict (max a b)).1
  again : (registry.evict a).2.evict a = (0, (registry.evict a).2)

theorem evictsAtLater (registry : Registry α) (a b : Timestamp) : registry.EvictsAtLater a b := by
  -- Each count is a difference of sizes, and the sizes in between cancel.
  have hcounts (b : Timestamp) :
      (registry.evict a).1 + ((registry.evict a).2.evict b).1 = (registry.evict (max a b)).1 := by
    have hfirst := fst_evict_add_size registry a
    have hsecond := fst_evict_add_size (registry.evict a).2 b
    have honce := fst_evict_add_size registry (max a b)
    rw [snd_evict_evict] at hsecond
    omega
  refine ⟨fun key entry => ?_, snd_evict_evict registry a b, hcounts b, Prod.ext ?_ ?_⟩
  · rw [stored?_evict]
    exact live?_eq_some_iff
  · have hsame := hcounts a
    rw [max_self] at hsame
    exact Nat.add_eq_left.mp hsame
  · rw [snd_evict_evict, max_self]

/-! ## One step -/

/-- What has been put into a registry and taken out of it. -/
structure Account where
  /-- The number of puts that found nothing. -/
  added : Nat
  /-- The number of deletions that found something. -/
  deleted : Nat
  /-- The sum of the counts of evictions. -/
  evicted : Nat

/-- The account of what a step answers. -/
def Step.account (registry : Registry α) : Step α → Account
  | put key value expiry => ⟨if (registry.put key value expiry).1.isNone then 1 else 0, 0, 0⟩
  | delete key => ⟨0, if (registry.delete key).1.isSome then 1 else 0, 0⟩
  | evict now => ⟨0, 0, (registry.evict now).1⟩
  | get _ _ | update _ _ _ => ⟨0, 0, 0⟩

theorem size_set (registry : Registry α) (key : String) (entry : Entry α) :
    (registry.set key entry).size =
      registry.size + if (registry.stored? key).isNone then 1 else 0 :=
  registry.sorted.length_insert key entry

theorem size_update (registry : Registry α) (key : String) (now : Timestamp) (change : α → α) :
    (registry.update key now change).2.size = registry.size := by
  cases h : registry.live? key now with
  | none => rw [update_of_not_live change h]
  | some entry =>
      rw [update_of_live change h, size_set, (live?_eq_some_iff.mp h).1]
      rfl

/-- A step changes the size of a registry as its answer says. -/
theorem size_perform (registry : Registry α) (step : Step α) :
    (step.perform registry).size + (step.account registry).deleted +
        (step.account registry).evicted =
      registry.size + (step.account registry).added := by
  cases step with
  | put key value expiry =>
      simp only [Step.perform, Step.account, put, size_set, Option.isNone_map, Nat.add_zero]
  | get key now => rfl
  | update key now change => exact size_update registry key now change
  | delete key =>
      simp only [Step.perform, Step.account, delete, Option.isSome_map, Nat.add_zero]
      exact registry.sorted.length_erase key
  | evict now =>
      rw [Nat.add_comm]
      exact fst_evict_add_size registry now

/-! ## Runs -/

/-- The account of steps that are performed in turn. -/
def account (registry : Registry α) : List (Step α) → Account
  | [] => ⟨0, 0, 0⟩
  | step :: rest =>
      let first := step.account registry
      let later := account (step.perform registry) rest
      ⟨first.added + later.added, first.deleted + later.deleted, first.evicted + later.evicted⟩

/-- A run changes the size of a registry as its answers say. -/
theorem size_after (registry : Registry α) (steps : List (Step α)) :
    (registry.after steps).size + (registry.account steps).deleted +
        (registry.account steps).evicted =
      registry.size + (registry.account steps).added := by
  induction steps generalizing registry with
  | nil => rfl
  | cons step rest ih =>
      have hstep := size_perform registry step
      have hrest := ih (step.perform registry)
      rw [after] at hrest ⊢
      simp only [account, List.foldl_cons]
      omega

end Registry

/-- Tells that sweeps take out what is used up, at two times as one at the later time does, and that
a sweep takes out nothing more when it is repeated. -/
structure Stores.SweepsAtLater (stores : Stores) (a b : Timestamp) : Prop where
  /-- A sweep leaves of the offers what may be used at its time. -/
  stored_offers : ∀ key entry, (stores.sweep a).2.offers.stored? key = some entry ↔
    stores.offers.stored? key = some entry ∧ a ≤ entry.expiry
  /-- So it does of the requests. -/
  stored_requests : ∀ key entry, (stores.sweep a).2.requests.stored? key = some entry ↔
    stores.requests.stored? key = some entry ∧ a ≤ entry.expiry
  left : ((stores.sweep a).2.sweep b).2 = (stores.sweep (max a b)).2
  offers : (stores.sweep a).1.offers + ((stores.sweep a).2.sweep b).1.offers =
    (stores.sweep (max a b)).1.offers
  requests : (stores.sweep a).1.requests + ((stores.sweep a).2.sweep b).1.requests =
    (stores.sweep (max a b)).1.requests
  again : (stores.sweep a).2.sweep a = (⟨0, 0⟩, (stores.sweep a).2)

theorem Stores.sweepsAtLater (stores : Stores) (a b : Timestamp) : stores.SweepsAtLater a b := by
  have hoffers := stores.offers.evictsAtLater a b
  have hrequests := stores.requests.evictsAtLater a b
  constructor
  · exact hoffers.stored
  · exact hrequests.stored
  · exact congrArg₂ Stores.mk hoffers.left hrequests.left
  · exact hoffers.counts
  · exact hrequests.counts
  · simp only [sweep, hoffers.again, hrequests.again]

/-- Evictions take out what is used up. Two of them are one at the later of their times, with counts
that add up, and so are sweeps of the stores. After every run the size of a registry is what puts have added, less what deletions and
evictions have taken out. -/
theorem Registry.evictions_compose_and_add_up {α : Type} :
    (∀ (registry : Registry α) (a b : Timestamp), registry.EvictsAtLater a b) ∧
    (∀ (stores : Stores) (a b : Timestamp), stores.SweepsAtLater a b) ∧
    ∀ steps : List (Step α), (((empty : Registry α).after steps).size : Int) =
      (empty.account steps).added - (empty.account steps).deleted -
        (empty.account steps).evicted := by
  refine ⟨evictsAtLater, Stores.sweepsAtLater, fun steps => ?_⟩
  have hsize := size_after (empty : Registry α) steps
  have hempty : (empty : Registry α).size = 0 := rfl
  omega

end WalletCredentials

import WalletCredentials.Dictionary
import WalletCredentials.Timestamp.Basic

/-!
# Registries

A registry keeps values under keys, each until a time of its own. A value may be used
through the second of that time. Afterwards it is still there, out of reach, until it
is evicted, deleted or replaced.

## Implementation notes

Each operation is one step. How a registry is shared by those who use it at the same time is left
out.
-/

namespace WalletCredentials

/-- A value and the time until which it may be used. -/
structure Registry.Entry (α : Type) where
  value : α
  expiry : Timestamp
  deriving DecidableEq

/-- Tells whether the value of an entry may be used. -/
def Registry.Entry.isLive {α : Type} (entry : Registry.Entry α) (now : Timestamp) : Bool :=
  !entry.expiry.isPassedAt now

/-- Values under keys, each until a time of its own. -/
structure Registry (α : Type) where
  entries : List (String × Registry.Entry α)
  sorted : Dictionary.Sorted entries

namespace Registry

variable {α : Type}

/-- The registry without entries. -/
def empty : Registry α := ⟨[], .nil⟩

instance : EmptyCollection (Registry α) := ⟨empty⟩

instance : Inhabited (Registry α) := ⟨empty⟩

/-- The entry under a key, whether or not its value may still be used. -/
def stored? (registry : Registry α) (key : String) : Option (Entry α) :=
  Dictionary.find? key registry.entries

/-- The entry under a key, if its value may be used. -/
def live? (registry : Registry α) (key : String) (now : Timestamp) : Option (Entry α) :=
  (registry.stored? key).filter (·.isLive now)

/-- The value under a key, if it may be used. -/
def get? (registry : Registry α) (key : String) (now : Timestamp) : Option α :=
  (registry.live? key now).map (·.value)

/-- The registry with an entry under a key. -/
def set (registry : Registry α) (key : String) (entry : Entry α) : Registry α :=
  ⟨Dictionary.insert key entry registry.entries, registry.sorted.insert⟩

/-- Puts a value under a key, and finds the value that stood there, used up or not. -/
def put (registry : Registry α) (key : String) (value : α) (expiry : Timestamp) :
    Option α × Registry α :=
  ((registry.stored? key).map (·.value), registry.set key ⟨value, expiry⟩)

/-- Changes the value under a key if it may be used, and finds the changed value. -/
def update (registry : Registry α) (key : String) (now : Timestamp) (change : α → α) :
    Option α × Registry α :=
  match registry.live? key now with
  | some entry =>
      (some (change entry.value), registry.set key { entry with value := change entry.value })
  | none => (none, registry)

/-- Takes out what stands under a key, and finds the value, used up or not. -/
def delete (registry : Registry α) (key : String) : Option α × Registry α :=
  ((registry.stored? key).map (·.value),
    ⟨Dictionary.erase key registry.entries, registry.sorted.erase⟩)

/-- The number of entries, used up or not. -/
def size (registry : Registry α) : Nat := registry.entries.length

/-- Tells whether there are no entries. -/
def isEmpty (registry : Registry α) : Bool := registry.entries.isEmpty

/-- The registry without the entries whose values may no longer be used. -/
def live (registry : Registry α) (now : Timestamp) : Registry α :=
  ⟨registry.entries.filter fun e => e.2.isLive now, registry.sorted.filter _⟩

/-- Takes out the entries whose values may no longer be used, and counts them. -/
def evict (registry : Registry α) (now : Timestamp) : Nat × Registry α :=
  (registry.size - (registry.live now).size, registry.live now)

/-- A registry as it is shown: only the number of its entries. -/
def shown (registry : Registry α) : String :=
  "MemoryRegistry \x7b len: " ++ toString registry.size ++ " \x7d"

end Registry

end WalletCredentials

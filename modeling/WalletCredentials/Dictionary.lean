/-!
# Dictionaries

A dictionary is a list of keys and values in increasing order of the keys. Equal
dictionaries are equal lists, so that two of them are the same as soon as every
key finds the same value.
-/

namespace WalletCredentials.Dictionary

variable {α : Type}

/-- The value of a key. -/
def find? (key : String) : List (String × α) → Option α
  | [] => none
  | (k, v) :: rest => if k = key then some v else find? key rest

/-- Puts a value under a key, in place of an earlier one. -/
def insert (key : String) (value : α) : List (String × α) → List (String × α)
  | [] => [(key, value)]
  | (k, v) :: rest =>
      if key < k then (key, value) :: (k, v) :: rest
      else if k = key then (key, value) :: rest
      else (k, v) :: insert key value rest

/-- Leaves out a key. -/
def erase (key : String) (entries : List (String × α)) : List (String × α) :=
  entries.filter fun e => e.1 ≠ key

/-- The dictionary of a list of keys and values; of two values of a key the later counts. -/
def ofList (entries : List (String × α)) : List (String × α) :=
  entries.foldl (fun d e => insert e.1 e.2 d) []

/-- Tells whether the keys increase. -/
def Sorted (entries : List (String × α)) : Prop :=
  entries.Pairwise fun a b => a.1 < b.1

theorem mem_insert {key : String} {value : α} {entries : List (String × α)} {e : String × α}
    (h : e ∈ insert key value entries) : e = (key, value) ∨ e ∈ entries := by
  induction entries with
  | nil => simpa [insert] using h
  | cons head rest ih =>
      obtain ⟨k, v⟩ := head
      unfold insert at h
      split at h
      · simpa using h
      · split at h
        · simp only [List.mem_cons] at h ⊢
          exact h.imp_right .inr
        · simp only [List.mem_cons] at h ⊢
          rcases h with h | h
          · exact .inr (.inl h)
          · exact (ih h).imp_right .inr

theorem Sorted.insert {key : String} {value : α} {entries : List (String × α)}
    (h : Sorted entries) : Sorted (insert key value entries) := by
  induction entries with
  | nil => simp [Dictionary.insert, Sorted]
  | cons head rest ih =>
      obtain ⟨k, v⟩ := head
      have hrest : Sorted rest := List.Pairwise.of_cons h
      have hhead (e : String × α) (he : e ∈ rest) : k < e.1 := List.rel_of_pairwise_cons h he
      unfold Dictionary.insert
      split
      · rename_i hlt
        refine List.pairwise_cons.mpr ⟨fun e he => ?_, h⟩
        rcases List.mem_cons.mp he with rfl | he
        · exact hlt
        · exact String.lt_trans hlt (hhead e he)
      · rename_i hlt
        split
        · rename_i heq
          exact List.pairwise_cons.mpr ⟨fun e he => heq ▸ hhead e he, hrest⟩
        · rename_i hne
          refine List.pairwise_cons.mpr ⟨fun e he => ?_, ih hrest⟩
          rcases mem_insert he with rfl | he
          · exact Std.lt_of_le_of_ne (String.not_lt.mp hlt) hne
          · exact hhead e he

theorem Sorted.filter {entries : List (String × α)} (p : String × α → Bool)
    (h : Sorted entries) : Sorted (entries.filter p) :=
  List.Pairwise.filter p h

theorem Sorted.erase {key : String} {entries : List (String × α)}
    (h : Sorted entries) : Sorted (erase key entries) :=
  h.filter _

end WalletCredentials.Dictionary

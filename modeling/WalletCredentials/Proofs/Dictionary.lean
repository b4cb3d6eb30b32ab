import Mathlib.Data.List.Nodup
import Mathlib.Order.Basic
import WalletCredentials.Dictionary

/-!
# Looking up in dictionaries

What each operation on a dictionary does to the value of a key, and that a dictionary is
determined by the values of its keys.
-/

namespace WalletCredentials.Dictionary

variable {α : Type}

@[simp] theorem find?_nil (key : String) : find? key ([] : List (String × α)) = none := rfl

theorem find?_cons (key k : String) (v : α) (rest : List (String × α)) :
    find? key ((k, v) :: rest) = if k = key then some v else find? key rest := rfl

theorem find?_insert (key k : String) (v : α) (entries : List (String × α)) :
    find? key (insert k v entries) = if k = key then some v else find? key entries := by
  induction entries with
  | nil => rfl
  | cons head rest ih =>
      obtain ⟨k', v'⟩ := head
      rw [insert]
      split
      · rfl
      · split
        · rename_i heq
          subst heq
          by_cases h : k' = key
          · simp [find?_cons, h]
          · simp [find?_cons, h]
        · rename_i hne
          rw [find?_cons, ih, find?_cons]
          by_cases h : k' = key
          · have hk : k ≠ key := fun hk => hne (h.trans hk.symm)
            simp [h, hk]
          · simp [h]

theorem find?_erase (key k : String) (entries : List (String × α)) :
    find? key (erase k entries) = if k = key then none else find? key entries := by
  induction entries with
  | nil => simp [erase]
  | cons head rest ih =>
      obtain ⟨k', v'⟩ := head
      rw [erase] at ih ⊢
      by_cases hk : k' = k
      · rw [List.filter_cons_of_neg (by simpa using hk), ih, find?_cons, hk]
        by_cases h : k = key
        · simp [h]
        · simp [h]
      · rw [List.filter_cons_of_pos (by simpa using hk), find?_cons, ih, find?_cons]
        by_cases h : k' = key
        · have hne : k ≠ key := fun h' => hk (h.trans h'.symm)
          simp [h, hne]
        · simp [h]

theorem mem_of_find?_eq_some {key : String} {v : α} {entries : List (String × α)}
    (h : find? key entries = some v) : (key, v) ∈ entries := by
  induction entries with
  | nil => simp at h
  | cons head rest ih =>
      obtain ⟨k', v'⟩ := head
      rw [find?_cons] at h
      split at h
      · rename_i heq
        simp only [Option.some.injEq] at h
        simp [heq, h]
      · exact List.mem_cons_of_mem _ (ih h)

theorem find?_eq_none_of_forall {key : String} {entries : List (String × α)}
    (h : ∀ e ∈ entries, e.1 ≠ key) : find? key entries = none := by
  cases hf : find? key entries with
  | none => rfl
  | some v => exact absurd rfl (h _ (mem_of_find?_eq_some hf))

/-- Leaving out entries hides those that are left out. -/
theorem Sorted.find?_filter {entries : List (String × α)} (h : Sorted entries)
    (p : String × α → Bool) (key : String) :
    find? key (entries.filter p) = (find? key entries).filter fun v => p (key, v) := by
  induction entries with
  | nil => rfl
  | cons head rest ih =>
      obtain ⟨k', v'⟩ := head
      have hrest := ih (List.Pairwise.of_cons h)
      have hnone : k' = key → find? key rest = none := by
        rintro rfl
        refine find?_eq_none_of_forall fun e he => ?_
        exact (Std.ne_of_lt (List.rel_of_pairwise_cons h he)).symm
      rw [find?_cons, List.filter_cons]
      by_cases hk : k' = key
      · rw [if_pos hk]
        subst hk
        by_cases hp : p (k', v') = true
        · rw [if_pos hp, find?_cons, if_pos rfl, Option.filter_some, if_pos hp]
        · rw [if_neg hp, hrest, hnone rfl, Option.filter_none, Option.filter_some, if_neg hp]
      · rw [if_neg hk]
        by_cases hp : p (k', v') = true
        · rw [if_pos hp, find?_cons, if_neg hk, hrest]
        · rw [if_neg hp, hrest]

theorem Sorted.ofList (entries : List (String × α)) : Sorted (Dictionary.ofList entries) := by
  have hfold (d : List (String × α)) (hd : Sorted d) :
      Sorted (entries.foldl (fun d e => Dictionary.insert e.1 e.2 d) d) := by
    induction entries generalizing d with
    | nil => exact hd
    | cons e rest ih => exact ih _ hd.insert
  exact hfold [] .nil

theorem find?_append (key : String) (a b : List (String × α)) :
    find? key (a ++ b) = (find? key a).or (find? key b) := by
  induction a with
  | nil => rfl
  | cons head rest ih =>
      obtain ⟨k, v⟩ := head
      rw [List.cons_append, find?_cons, find?_cons, ih]
      by_cases h : k = key
      · simp [h]
      · simp [h]

/-- Of several values of a key a dictionary holds the last. -/
theorem find?_ofList (key : String) (entries : List (String × α)) :
    find? key (ofList entries) = find? key entries.reverse := by
  have hfold (d : List (String × α)) :
      find? key (entries.foldl (fun d e => insert e.1 e.2 d) d) =
        (find? key entries.reverse).or (find? key d) := by
    induction entries generalizing d with
    | nil => rfl
    | cons e rest ih =>
        rw [List.foldl_cons, ih, find?_insert, List.reverse_cons, find?_append, find?_cons,
          find?_nil, Option.or_assoc]
        by_cases h : e.1 = key
        · simp [h]
        · simp [h]
  rw [ofList, hfold, find?_nil, Option.or_none]

theorem mem_ofList {entries : List (String × α)} {e : String × α} (h : e ∈ ofList entries) :
    e ∈ entries := by
  have hfold (rest d : List (String × α)) (he : e ∈ rest.foldl (fun d e => insert e.1 e.2 d) d) :
      e ∈ d ∨ e ∈ rest := by
    induction rest generalizing d with
    | nil => exact .inl he
    | cons e' rest ih =>
        rcases ih _ he with he | he
        · rcases mem_insert he with he | he
          · exact .inr (he ▸ List.mem_cons_self)
          · exact .inl he
        · exact .inr (List.mem_cons_of_mem _ he)
  exact (hfold entries [] h).resolve_left (by simp)

theorem insert_of_forall_lt {key : String} {v : α} {entries : List (String × α)}
    (h : ∀ e ∈ entries, e.1 < key) : insert key v entries = entries ++ [(key, v)] := by
  induction entries with
  | nil => rfl
  | cons head rest ih =>
      obtain ⟨k', v'⟩ := head
      have hlt : k' < key := h _ List.mem_cons_self
      rw [insert, if_neg (Std.not_gt_of_lt hlt), if_neg (Std.ne_of_lt hlt),
        ih fun e he => h e (List.mem_cons_of_mem _ he), List.cons_append]

/-- A list that is a dictionary already stays as it is. -/
theorem Sorted.ofList_eq {entries : List (String × α)} (h : Sorted entries) :
    Dictionary.ofList entries = entries := by
  have hfold (rest d : List (String × α)) (hd : Sorted (d ++ rest)) :
      rest.foldl (fun d e => Dictionary.insert e.1 e.2 d) d = d ++ rest := by
    induction rest generalizing d with
    | nil => simp
    | cons e rest ih =>
        have hlt : ∀ e' ∈ d, e'.1 < e.1 := fun e' he' =>
          (List.pairwise_append.mp hd).2.2 e' he' e List.mem_cons_self
        rw [List.foldl_cons, insert_of_forall_lt hlt, ih _ (by simpa using hd)]
        simp
  exact hfold entries [] h

theorem erase_insert (key : String) (v : α) (entries : List (String × α)) :
    erase key (insert key v entries) = erase key entries := by
  induction entries with
  | nil => simp [insert, erase]
  | cons head rest ih =>
      obtain ⟨k', v'⟩ := head
      rw [erase] at ih
      rw [insert]
      split
      · simp [erase]
      · split
        · rename_i heq
          simp [erase, heq]
        · rw [erase, erase, List.filter_cons, List.filter_cons, ih, erase]

/-! ## Dictionaries as sets of members -/

theorem Sorted.nodup_keys {entries : List (String × α)} (h : Sorted entries) :
    (entries.map Prod.fst).Nodup := by
  rw [List.nodup_iff_pairwise_ne, List.pairwise_map]
  exact h.imp Std.ne_of_lt

/-- Where no key stands twice, a key finds the values that stand with it. -/
theorem find?_eq_some_iff {key : String} {v : α} {entries : List (String × α)}
    (h : (entries.map Prod.fst).Nodup) : find? key entries = some v ↔ (key, v) ∈ entries := by
  refine ⟨mem_of_find?_eq_some, ?_⟩
  induction entries with
  | nil => simp
  | cons head rest ih =>
      obtain ⟨k', v'⟩ := head
      obtain ⟨hhead, hrest⟩ := List.nodup_cons.mp h
      intro hmem
      rcases List.mem_cons.mp hmem with heq | hmem
      · obtain ⟨rfl, rfl⟩ := Prod.mk.inj heq
        rw [find?_cons, if_pos rfl]
      · have hne : k' ≠ key := by
          rintro rfl
          exact hhead (List.mem_map.mpr ⟨_, hmem, rfl⟩)
        rw [find?_cons, if_neg hne, ih hrest hmem]

/-- Dictionaries are equal as soon as they have the same members. -/
theorem Sorted.eq_of_mem_iff {a b : List (String × α)} (ha : Sorted a) (hb : Sorted b)
    (h : ∀ e, e ∈ a ↔ e ∈ b) : a = b := by
  have hperm : a.Perm b :=
    (List.perm_ext_iff_of_nodup (List.Nodup.of_map _ ha.nodup_keys)
      (List.Nodup.of_map _ hb.nodup_keys)).mpr h
  exact hperm.eq_of_pairwise (fun e e' _ _ hlt hgt => absurd hgt (Std.not_gt_of_lt hlt)) ha hb

/-- Dictionaries are equal as soon as every key finds the same value. -/
theorem Sorted.eq_of_find? {a b : List (String × α)} (ha : Sorted a) (hb : Sorted b)
    (h : ∀ key, find? key a = find? key b) : a = b := by
  refine ha.eq_of_mem_iff hb fun e => ?_
  rw [← find?_eq_some_iff ha.nodup_keys, ← find?_eq_some_iff hb.nodup_keys, h]

/-- Where no key stands twice, the dictionary of a list has its members. -/
theorem perm_ofList {entries : List (String × α)} (h : (entries.map Prod.fst).Nodup) :
    (ofList entries).Perm entries := by
  have hkeys : (entries.reverse.map Prod.fst).Nodup :=
    ((entries.reverse_perm.map Prod.fst).nodup_iff).mpr h
  refine (List.perm_ext_iff_of_nodup (List.Nodup.of_map _ (Sorted.ofList entries).nodup_keys)
    (List.Nodup.of_map _ h)).mpr fun e => ?_
  rw [← find?_eq_some_iff (Sorted.ofList entries).nodup_keys, find?_ofList,
    find?_eq_some_iff hkeys, List.mem_reverse]

/-- The members of a dictionary make it up in whatever order they come. -/
theorem Sorted.ofList_of_perm {entries shuffled : List (String × α)} (h : Sorted entries)
    (hperm : shuffled.Perm entries) : Dictionary.ofList shuffled = entries := by
  have hkeys : (shuffled.map Prod.fst).Nodup :=
    ((hperm.map Prod.fst).nodup_iff).mpr h.nodup_keys
  exact (Sorted.ofList shuffled).eq_of_mem_iff h fun e =>
    ((perm_ofList hkeys).trans hperm).mem_iff

/-- Where no key stands twice, what a key finds does not depend on the order. -/
theorem find?_perm {entries shuffled : List (String × α)} (h : (entries.map Prod.fst).Nodup)
    (hperm : shuffled.Perm entries) (key : String) : find? key shuffled = find? key entries := by
  have hkeys : (shuffled.map Prod.fst).Nodup := ((hperm.map Prod.fst).nodup_iff).mpr h
  ext v
  rw [find?_eq_some_iff hkeys, find?_eq_some_iff h, hperm.mem_iff]

/-! ## Sizes -/

/-- Putting a value under a key adds an entry if there is none under the key yet. -/
theorem Sorted.length_insert {entries : List (String × α)} (h : Sorted entries) (key : String)
    (v : α) : (Dictionary.insert key v entries).length =
      entries.length + if (find? key entries).isNone then 1 else 0 := by
  induction entries with
  | nil => rfl
  | cons head rest ih =>
      obtain ⟨k', v'⟩ := head
      have hrest := ih (List.Pairwise.of_cons h)
      rw [Dictionary.insert, find?_cons]
      split
      · rename_i hlt
        have habove : ∀ e ∈ rest, e.1 ≠ key := fun e he =>
          (Std.ne_of_lt (String.lt_trans hlt (List.rel_of_pairwise_cons h he))).symm
        rw [if_neg (Std.ne_of_lt hlt).symm, find?_eq_none_of_forall habove]
        rfl
      · split
        · rfl
        · rw [List.length_cons, hrest, List.length_cons]
          omega

/-- Leaving out a key takes out the entry under it, if there is one. -/
theorem Sorted.length_erase {entries : List (String × α)} (h : Sorted entries) (key : String) :
    (Dictionary.erase key entries).length + (if (find? key entries).isSome then 1 else 0) =
      entries.length := by
  induction entries with
  | nil => rfl
  | cons head rest ih =>
      obtain ⟨k', v'⟩ := head
      have hrest := ih (List.Pairwise.of_cons h)
      rw [Dictionary.erase] at hrest ⊢
      rw [find?_cons]
      by_cases hk : k' = key
      · have hothers : ∀ e ∈ rest, e.1 ≠ key := fun e he =>
          hk ▸ (Std.ne_of_lt (List.rel_of_pairwise_cons h he)).symm
        rw [find?_eq_none_of_forall hothers] at hrest
        rw [List.filter_cons_of_neg (by simpa using hk), if_pos hk, List.length_cons, ← hrest]
        rfl
      · rw [List.filter_cons_of_pos (by simpa using hk), if_neg hk, List.length_cons,
          List.length_cons, ← hrest]
        omega

end WalletCredentials.Dictionary

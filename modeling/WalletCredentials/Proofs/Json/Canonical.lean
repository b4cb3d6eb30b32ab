import WalletCredentials.Json.Canonical
import WalletCredentials.Proofs.Encoding.Utf8
import WalletCredentials.Proofs.Json.Values

/-!
# Canonical forms tell values apart

The canonical form of a value is read back as the value, although its members stand in another
order there. So values with the same canonical form are equal, as long as their numbers are
whole numbers of 64 bits.
-/

namespace WalletCredentials.Json

/-- Tells that the numbers in a value are whole numbers of 64 bits, with or without a sign, and
that the members of its objects are dictionaries. -/
inductive IsIntegral : Json → Prop
  | null : IsIntegral .null
  | bool (b : Bool) : IsIntegral (.bool b)
  | whole {n : Int} (h : -(UInt64.size / 2 : Nat) ≤ n ∧ n < UInt64.size) :
      IsIntegral (.number (.whole n))
  | string (s : String) : IsIntegral (.string s)
  | array {items : List Json} (h : ∀ v ∈ items, IsIntegral v) : IsIntegral (.array items)
  | object {members : List (String × Json)} (hsorted : Dictionary.Sorted members)
      (h : ∀ m ∈ members, IsIntegral m.2) : IsIntegral (.object members)

variable {style : Notation} {v w : Json}

/-! ## Members in canonical order -/

theorem orderedItems_eq_map (items : List Json) : orderedItems items = items.map ordered := by
  induction items with
  | nil => rfl
  | cons v rest ih => rw [orderedItems, ih, List.map_cons]

theorem orderedMembers_eq_map (members : List (String × Json)) :
    orderedMembers members = members.map fun m => (m.1, ordered m.2) := by
  induction members with
  | nil => rfl
  | cons m rest ih => rw [orderedMembers, ih, List.map_cons]

theorem insertByQuote_perm (m : String × Json) (members : List (String × Json)) :
    (insertByQuote m members).Perm (m :: members) := by
  induction members with
  | nil => exact .refl _
  | cons m' rest ih =>
      rw [insertByQuote]
      split
      · exact .refl _
      · exact (ih.cons m').trans (.swap m m' rest)

theorem sortByQuote_perm (members : List (String × Json)) :
    (sortByQuote members).Perm members := by
  induction members with
  | nil => exact .nil
  | cons m rest ih => exact (insertByQuote_perm m _).trans (ih.cons m)

/-- Putting members into canonical order does not change the value. -/
theorem IsIntegral.normal_ordered (h : IsIntegral v) : normal (ordered v) = v := by
  induction h with
  | null => rfl
  | bool b => rfl
  | whole _ => rfl
  | string s => rfl
  | @array items _ ih =>
      have hitems : (items.map ordered).map normal = items := calc
        (items.map ordered).map normal = items.map (normal ∘ ordered) := List.map_map
        _ = items.map id := List.map_congr_left ih
        _ = items := List.map_id items
      rw [ordered, orderedItems_eq_map, normal, normalItems_eq_map, hitems]
  | @object members hsorted _ ih =>
      have hmembers : ((members.map fun m => (m.1, ordered m.2)).map fun m => (m.1, normal m.2)) =
          members := calc
        _ = members.map fun m => (m.1, normal (ordered m.2)) := List.map_map
        _ = members.map id := List.map_congr_left fun m hm => Prod.ext rfl (ih m hm)
        _ = members := List.map_id members
      have hperm := (sortByQuote_perm (members.map fun m => (m.1, ordered m.2))).map
        fun m => (m.1, normal m.2)
      rw [hmembers] at hperm
      rw [ordered, orderedMembers_eq_map, normal, normalMembers_eq_map, ofMembers,
        hsorted.ofList_of_perm hperm]

theorem IsIntegral.legible_ordered (h : IsIntegral v) : Legible style (ordered v) := by
  induction h with
  | null => trivial
  | bool b => trivial
  | whole hn => exact Number.readsBack_whole style hn
  | string s => trivial
  | array _ ih =>
      rw [ordered, orderedItems_eq_map]
      refine legibleItems_iff.mpr fun v hv => ?_
      obtain ⟨v', hv', rfl⟩ := List.mem_map.mp hv
      exact ih v' hv'
  | object _ _ ih =>
      rw [ordered, orderedMembers_eq_map]
      refine legibleMembers_iff.mpr fun m hm => ?_
      obtain ⟨m', hm', rfl⟩ := List.mem_map.mp ((sortByQuote_perm _).mem_iff.mp hm)
      exact ih m' hm'

/-! ## Reading back canonical forms -/

/-- The canonical form of a value is read as the value. -/
theorem IsIntegral.readCharsWithin_canonicalChars (h : IsIntegral v) {depth : Nat}
    (hdepth : nesting (ordered v) ≤ depth) :
    readCharsWithin depth (canonicalChars v) = some v := by
  rw [canonicalChars, readCharsWithin_chars h.legible_ordered hdepth, h.normal_ordered]

/-- Values are equal if their canonical forms are the same. -/
theorem IsIntegral.eq_of_canonicalChars_eq (hv : IsIntegral v) (hw : IsIntegral w)
    (h : canonicalChars v = canonicalChars w) : v = w := by
  -- Both are read with a depth that is enough for either.
  have hreadv := hv.readCharsWithin_canonicalChars
    (Nat.le_max_left (nesting (ordered v)) (nesting (ordered w)))
  have hreadw := hw.readCharsWithin_canonicalChars
    (Nat.le_max_right (nesting (ordered v)) (nesting (ordered w)))
  rw [h] at hreadv
  exact Option.some.inj (hreadv.symm.trans hreadw)

/-- Values are equal if the bytes of their canonical forms are. -/
theorem IsIntegral.canonicalBytes_inj (hv : IsIntegral v) (hw : IsIntegral w) :
    canonicalBytes v = canonicalBytes w ↔ v = w := by
  constructor
  · intro h
    exact hv.eq_of_canonicalChars_eq hw (Utf8.encodeChars_injective h)
  · rintro rfl
    rfl

end WalletCredentials.Json

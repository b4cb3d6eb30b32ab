import WalletCredentials.Proofs.Did
import WalletCredentials.Proofs.Json.Spelling
import WalletCredentials.Proofs.Record.Encoding
import WalletCredentials.Record.Reader

/-!
# Reading back records

Every encoding of a value of a clear shape is read as that value. The members of an object come
in any order: after some of them have been read, the slots that are filled are those with their
names, and at the end a field without a member is one that is left out where it holds nothing.
-/

namespace WalletCredentials

open Json (isBlank chars skipBlanks_cons readMark_cons)

/-! ## Strings -/

theorem readText_quote (s : String) (rest : List Char) :
    readText (Json.quote s ++ rest) = .ok (s, rest) := by
  rw [Json.quote_append, readText, skipBlanks_cons _ (by decide)]
  simp only [Json.readString_flatMap, orMalformed, ok_bind, String.ofList_toList]
  rfl

theorem readChecked_quote {α : Type} {check : String → Except InputError α} {s : String} {a : α}
    (h : check s = .ok a) (rest : List Char) :
    readChecked check (Json.quote s ++ rest) = .ok (a, rest) := by
  rw [readChecked, readText_quote, ok_bind]
  simp only [h]
  rfl

theorem variantIndex_get {variants : List String} (h : variants.Nodup)
    (i : Fin variants.length) : variantIndex variants (variants.get i) = .ok i := by
  have hindex : variants.finIdxOf? (variants.get i) = some i := by
    refine List.finIdxOf?_eq_some_iff.mpr ⟨rfl, fun j hj heq => ?_⟩
    exact absurd (Fin.val_inj.mp (h.getElem_inj_iff.mp heq)) (Fin.ne_of_lt hj)
  rw [variantIndex, hindex]

theorem readChoice_quote {variants : List String} (h : variants.Nodup)
    (i : Fin variants.length) (depth : Nat) (rest : List Char) :
    readChoice variants depth (Json.quote (variants.get i) ++ rest) = .ok (i, rest) := by
  rw [Json.quote_append, readChoice.eq_def, skipBlanks_cons _ (by decide)]
  simp only [Json.readString_flatMap, orMalformed, ok_bind, String.ofList_toList,
    variantIndex_get h]
  rfl

/-! ## Lists -/

/-- Tells that an item of a list may begin as a text does. -/
def BeginsItem (cs : List Char) : Prop := ∃ c tail, cs = c :: tail ∧ isBlank c = false ∧ c ≠ ']'

theorem nextItem_bracket (first : Bool) (cs : List Char) : nextItem first (']' :: cs) = .ok none := by
  rw [nextItem, skipBlanks_cons _ (by decide)]
  rfl

theorem nextItem_first {cs : List Char} (h : BeginsItem cs) (rest : List Char) :
    nextItem true (cs ++ rest) = .ok (some (cs ++ rest)) := by
  obtain ⟨c, tail, rfl, hblank, hne⟩ := h
  rw [List.cons_append, nextItem, skipBlanks_cons _ hblank]
  simp [hne]

theorem nextItem_comma {cs : List Char} (h : BeginsItem cs) (rest : List Char) :
    nextItem false (',' :: (cs ++ rest)) = .ok (some (cs ++ rest)) := by
  obtain ⟨c, tail, rfl, hblank, hne⟩ := h
  rw [List.cons_append, nextItem, skipBlanks_cons _ (by decide)]
  simp [skipBlanks_cons _ hblank, hne]

/-- Tells that an item is read from a text as a value, whatever follows. -/
def ReadsItem {α : Type} (item : List Char → Except ReadFault (α × List Char)) (a : α)
    (cs : List Char) : Prop :=
  BeginsItem cs ∧ ∀ rest, item (cs ++ rest) = .ok (a, rest)

theorem chars_array (items : List Json) : chars .plain (.array items) =
    '[' :: (Json.commas (items.map (chars .plain)) ++ [']']) := by
  rw [chars, Json.itemChars_eq_map]
  rfl

section Lists

variable {α : Type} {item : List Char → Except ReadFault (α × List Char)} {fuel : Nat}

theorem readList_bracket (first : Bool) (rest : List Char) :
    readList item (fuel + 1) first (']' :: rest) = .ok ([], rest) := by
  rw [readList, nextItem_bracket, ok_bind]
  simp only [readMark_cons rest (show isBlank ']' = false by decide), orMalformed, ok_bind]
  rfl

/-- An item is read and then the items after it. -/
theorem readList_item {first : Bool} {cs text : List Char} {a : α} {as : List α}
    {rest rest' : List Char} (hnext : nextItem first cs = .ok (some (text ++ rest)))
    (hitem : ReadsItem item a text) (hrest : readList item fuel false rest = .ok (as, rest')) :
    readList item (fuel + 1) first cs = .ok (a :: as, rest') := by
  rw [readList, hnext, ok_bind]
  simp only [hitem.2, ok_bind, hrest]
  rfl

/-- The items of a list after the first are read, each after its comma. -/
theorem readList_flatMap {as : List α} {texts : List (List Char)}
    (h : List.Forall₂ (ReadsItem item) as texts) (hfuel : texts.length < fuel)
    (rest : List Char) :
    readList item fuel false (texts.flatMap (fun cs => ',' :: cs) ++ ']' :: rest) =
      .ok (as, rest) := by
  induction h generalizing fuel with
  | nil =>
      obtain ⟨fuel, rfl⟩ := Nat.exists_eq_succ_of_ne_zero (Nat.ne_zero_of_lt hfuel)
      exact readList_bracket false rest
  | cons hitem _ ih =>
      obtain ⟨fuel, rfl⟩ := Nat.exists_eq_succ_of_ne_zero (Nat.ne_zero_of_lt hfuel)
      rw [List.flatMap_cons, List.cons_append, List.cons_append, List.append_assoc]
      exact readList_item (nextItem_comma hitem.1 _) hitem (ih (Nat.lt_of_succ_lt_succ hfuel))

/-- The items of a list are read from their texts. -/
theorem readList_commas {as : List α} {texts : List (List Char)}
    (h : List.Forall₂ (ReadsItem item) as texts) (hfuel : texts.length < fuel)
    (rest : List Char) :
    readList item fuel true (Json.commas texts ++ ']' :: rest) = .ok (as, rest) := by
  obtain ⟨fuel, rfl⟩ := Nat.exists_eq_succ_of_ne_zero (Nat.ne_zero_of_lt hfuel)
  cases h with
  | nil => exact readList_bracket true rest
  | cons hitem hrest =>
      rw [Json.commas_cons, List.append_assoc]
      exact readList_item (nextItem_first hitem.1 _) hitem
        (readList_flatMap hrest (Nat.lt_of_succ_lt_succ hfuel) rest)

end Lists

/-! ## Objects -/

/-- The text of a member of an object. -/
def memberText (m : String × Json) : List Char := Json.quote m.1 ++ ':' :: chars .plain m.2

theorem memberText_append (m : String × Json) (rest : List Char) : memberText m ++ rest =
    '"' :: (m.1.toList.flatMap Json.escape ++ '"' :: ':' :: (chars .plain m.2 ++ rest)) := by
  rw [memberText, List.append_assoc, Json.quote_append, List.cons_append]

theorem nextName_first (m : String × Json) (rest : List Char) :
    nextName true (memberText m ++ rest) =
      .ok (some (m.1.toList.flatMap Json.escape ++ '"' :: ':' :: (chars .plain m.2 ++ rest))) := by
  rw [memberText_append, nextName, skipBlanks_cons _ (by decide)]
  rfl

theorem nextName_comma (m : String × Json) (rest : List Char) :
    nextName false (',' :: (memberText m ++ rest)) =
      .ok (some (m.1.toList.flatMap Json.escape ++ '"' :: ':' :: (chars .plain m.2 ++ rest))) := by
  rw [memberText_append, nextName, skipBlanks_cons _ (by decide)]
  simp only [readMark_cons _ (show isBlank '"' = false by decide), orMalformed]
  rfl

theorem chars_object (members : List (String × Json)) : chars .plain (.object members) =
    '{' :: (Json.commas (members.map memberText) ++ ['}']) := by
  rw [chars, Json.memberChars_eq_map]
  rfl

section Objects

variable {σ : Type} {fuel : Nat}
  {member : String → σ → List Char → Option (Except ReadFault (σ × List Char))}

theorem readObject_brace (first : Bool) (state : σ) (rest : List Char) :
    readObject member (fuel + 1) first state ('}' :: rest) = .ok (state, rest) := by
  have hnext : nextName first ('}' :: rest) = .ok none := by
    rw [nextName, skipBlanks_cons _ (by decide)]
    rfl
  rw [readObject, hnext, ok_bind]
  simp only [readMark_cons rest (show isBlank '}' = false by decide), orMalformed, ok_bind]
  rfl

/-- A member is read into the state and then the members after it. -/
theorem readObject_member {first : Bool} {state state' : σ} {cs rest : List Char} {name : String}
    {text : List Char}
    (hnext : nextName first cs = .ok (some (name.toList.flatMap Json.escape ++ '"' :: text)))
    (hmember : member name state text = some (.ok (state', rest))) :
    readObject member (fuel + 1) first state cs = readObject member fuel false state' rest := by
  rw [readObject, hnext, ok_bind]
  simp only [Json.readString_flatMap, orMalformed, ok_bind, String.ofList_toList, hmember]

variable {stateAfter : List String → σ} {members : List (String × Json)}

/-- Tells that a member is read into the state that comes after the names before it. -/
def ReadsMember (member : String → σ → List Char → Option (Except ReadFault (σ × List Char)))
    (stateAfter : List String → σ) (m : String × Json) : Prop :=
  ∀ names, m.1 ∉ names → ∀ rest, member m.1 (stateAfter names) (':' :: (chars .plain m.2 ++ rest)) =
    some (.ok (stateAfter (m.1 :: names), rest))

/-- The members of an object after the first are read, each after its comma. -/
theorem readObject_flatMap (hmembers : ∀ m ∈ members, ReadsMember member stateAfter m)
    (hnodup : (members.map Prod.fst).Nodup) {names : List String}
    (hnames : ∀ m ∈ members, m.1 ∉ names) (hfuel : members.length < fuel) (rest : List Char) :
    readObject member fuel false (stateAfter names)
        (members.flatMap (fun m => ',' :: memberText m) ++ '}' :: rest) =
      .ok (stateAfter ((members.map Prod.fst).reverse ++ names), rest) := by
  -- Names differ, and so no member to come has a name that the state has taken in already.
  induction members generalizing fuel names with
  | nil =>
      obtain ⟨fuel, rfl⟩ := Nat.exists_eq_succ_of_ne_zero (Nat.ne_zero_of_lt hfuel)
      exact readObject_brace false _ rest
  | cons m others ih =>
      obtain ⟨fuel, rfl⟩ := Nat.exists_eq_succ_of_ne_zero (Nat.ne_zero_of_lt hfuel)
      obtain ⟨hm, hothers⟩ := List.forall_mem_cons.mp hmembers
      obtain ⟨hnew, hnames⟩ := List.forall_mem_cons.mp hnames
      obtain ⟨hname, hnodup⟩ := List.nodup_cons.mp hnodup
      rw [List.flatMap_cons, List.cons_append, List.cons_append, List.append_assoc,
        readObject_member (nextName_comma m _) (hm names hnew _), ih hothers hnodup ?_
          (Nat.lt_of_succ_lt_succ hfuel)]
      · simp
      · intro m' hm'
        simp only [List.mem_cons, not_or]
        exact ⟨fun heq => hname (heq ▸ List.mem_map_of_mem hm'), hnames m' hm'⟩

/-- The members of an object are read from their texts. -/
theorem readObject_commas (hmembers : ∀ m ∈ members, ReadsMember member stateAfter m)
    (hnodup : (members.map Prod.fst).Nodup) (hfuel : members.length < fuel) (rest : List Char) :
    readObject member fuel true (stateAfter [])
        (Json.commas (members.map memberText) ++ '}' :: rest) =
      .ok (stateAfter (members.map Prod.fst).reverse, rest) := by
  obtain ⟨fuel, rfl⟩ := Nat.exists_eq_succ_of_ne_zero (Nat.ne_zero_of_lt hfuel)
  cases members with
  | nil => exact readObject_brace true _ rest
  | cons m others =>
      obtain ⟨hm, hothers⟩ := List.forall_mem_cons.mp hmembers
      obtain ⟨hname, hnodup⟩ := List.nodup_cons.mp hnodup
      rw [List.map_cons, Json.commas_cons, List.append_assoc, List.flatMap_map,
        readObject_member (nextName_first m _) (hm [] List.not_mem_nil _),
        readObject_flatMap hothers hnodup ?_ (Nat.lt_of_succ_lt_succ hfuel)]
      · simp
      · intro m' hm'
        simp only [List.mem_singleton]
        exact fun heq => hname (heq ▸ List.mem_map_of_mem hm')

end Objects

/-! ## Fields -/

/-- The slots of fields where those with certain names have been read. -/
def Fields.filled : (fields : Fields) → fields.Values → List String → fields.Slots
  | .nil, _, _ => ()
  | .cons field _ rest, (v, vs), names =>
      (if field.name ∈ names then some v else none, rest.filled vs names)

theorem Fields.filled_nil : ∀ (fields : Fields) (vs : fields.Values),
    fields.filled vs [] = fields.noSlots
  | .nil, _ => rfl
  | .cons _ _ rest, (_, vs) => by
      rw [Fields.filled, Fields.noSlots, rest.filled_nil vs, if_neg List.not_mem_nil]

theorem Fields.filled_cons_of_notMem : ∀ (fields : Fields) (vs : fields.Values) {name : String}
    (names : List String), name ∉ fields.names →
    fields.filled vs (name :: names) = fields.filled vs names
  | .nil, _, _, _, _ => rfl
  | .cons field _ rest, (_, vs), name, names, h => by
      rw [Fields.names, List.mem_cons, not_or] at h
      have hmem : field.name ∈ name :: names ↔ field.name ∈ names := by
        simp [Ne.symm h.1]
      rw [Fields.filled, Fields.filled, rest.filled_cons_of_notMem vs names h.2]
      simp only [hmem]
      rfl

/-- Where a field has no member it holds nothing, and so fields are complete once their members
have been read. -/
theorem Fields.complete_filled : ∀ {fields : Fields} {vs : fields.Values}
    {members : List (String × Json)} {names : List String}, fields.areClear = true →
    fields.Encode vs members → (∀ m ∈ members, m.1 ∈ names) →
    fields.complete (fields.filled vs names) = .ok vs
  | .nil, _, _, _, _, _, _ => rfl
  | .cons field shape rest, (v, vs), members, names, hclear, h, hnames => by
      simp only [Fields.areClear, Bool.and_eq_true] at hclear
      obtain ⟨j, others, hj, hothers, rfl⟩ := h
      obtain ⟨hwritten, hrest⟩ := List.forall_mem_append.mp hnames
      have hcomplete := complete_filled hclear.2 hothers hrest
      have hslot : ((if field.name ∈ names then some v else none) <|> shape.absent? field) =
          some v := by
        by_cases hmem : field.name ∈ names
        · rw [if_pos hmem]
          rfl
        · rcases field.written_cases j with hj' | ⟨-, rfl, -⟩
          · rw [hj'] at hwritten
            exact absurd (hwritten _ List.mem_cons_self) hmem
          · rw [if_neg hmem]
            exact Shape.absent?_eq_some hclear.1 hj field
      rw [Fields.filled, Fields.complete]
      simp only [hslot, hcomplete, ok_bind]
      rfl

/-- The text of an encoding may begin an item, and with no letter unless it is null. -/
theorem Shape.Encodes.exists_head {shape : Shape} {v : shape.Value} {j : Json}
    (h : shape.Encodes v j) (hclear : shape.isClear = true) :
    ∃ c tail, chars .plain j = c :: tail ∧ isBlank c = false ∧ c ≠ ']' ∧
      (shape.isOptional = false → c ≠ 'n') := by
  rcases h.kind hclear with ⟨s, rfl⟩ | ⟨items, rfl⟩ | ⟨members, rfl⟩ | ⟨hoptional, rfl⟩
  · exact ⟨'"', _, rfl, by decide, by decide, fun _ => by decide⟩
  · exact ⟨'[', _, rfl, by decide, by decide, fun _ => by decide⟩
  · exact ⟨'{', _, rfl, by decide, by decide, fun _ => by decide⟩
  · exact ⟨'n', _, rfl, by decide, by decide, fun h => by rw [hoptional] at h; cases h⟩

theorem Shape.read_optional {item : Shape} {fuel depth : Nat} {c : Char} {cs : List Char}
    (hblank : isBlank c = false) (hc : c ≠ 'n') : (Shape.optional item).read fuel depth (c :: cs) =
      (item.read fuel depth (c :: cs)).map fun (v, rest) => (some v, rest) := by
  have h := Shape.read.eq_def (.optional item) fuel depth (c :: cs)
  simp only [skipBlanks_cons cs hblank] at h
  rw [h]
  split
  · rename_i heq
    exact absurd (List.cons_eq_cons.mp heq).1 hc
  · cases item.read fuel depth (c :: cs) <;> rfl

theorem Shape.read_list {item : Shape} {fuel depth : Nat} (cs : List Char) :
    (Shape.list item).read fuel (depth + 1) ('[' :: cs) =
      readList (item.read fuel depth) fuel true cs := by
  have h := Shape.read.eq_def (.list item) fuel (depth + 1) ('[' :: cs)
  simp only [skipBlanks_cons cs (show isBlank '[' = false by decide)] at h
  exact h

theorem Shape.read_record {name : String} {fields : Fields} {fuel depth : Nat} (cs : List Char) :
    (Shape.record name fields).read fuel (depth + 1) ('{' :: cs) = (do
      let (slots, rest) ←
        readObject (fun name slots cs => fields.readMember fuel depth name slots cs)
          fuel true fields.noSlots cs
      return (← fields.complete slots, rest)) := by
  have h := Shape.read.eq_def (.record name fields) fuel (depth + 1) ('{' :: cs)
  simp only [skipBlanks_cons cs (show isBlank '{' = false by decide)] at h
  exact h

/-- An object is read as a record once each of its members is read into the slot of its field. -/
theorem Shape.read_object {name : String} {fields : Fields} {vs : fields.Values}
    {written members : List (String × Json)} {fuel depth : Nat} (hclear : fields.areClear = true)
    (hnames : fields.names.Nodup) (hwritten : fields.Encode vs written)
    (hperm : members.Perm written) (hfuel : members.length < fuel)
    (hread : ∀ m ∈ members, ReadsMember
      (fun name slots cs => fields.readMember fuel depth name slots cs) (fields.filled vs) m)
    (rest : List Char) : (Shape.record name fields).read fuel (depth + 1)
      ('{' :: (Json.commas (members.map memberText) ++ '}' :: rest)) = .ok (vs, rest) := by
  have hnodup : (members.map Prod.fst).Nodup :=
    ((hperm.map Prod.fst).nodup_iff).mpr (hwritten.nodup hnames)
  have hall : ∀ m ∈ written, m.1 ∈ (members.map Prod.fst).reverse := fun m hm =>
    List.mem_reverse.mpr (List.mem_map_of_mem (hperm.mem_iff.mpr hm))
  rw [Shape.read_record, ← fields.filled_nil vs, readObject_commas hread hnodup hfuel, ok_bind]
  simp only [Fields.complete_filled hclear hwritten hall]
  rfl

/-- A member is read into the slot of the first field if it has its name. -/
theorem Fields.readMember_first {field : Field} {shape : Shape} {others : Fields}
    {fuel depth : Nat} {slots : others.Slots} {v : shape.Value} {cs rest : List Char}
    (h : shape.read fuel depth cs = .ok (v, rest)) :
    (Fields.cons field shape others).readMember fuel depth field.name (none, slots) (':' :: cs) =
      some (.ok ((some v, slots), rest)) := by
  have heq := Fields.readMember.eq_def (.cons field shape others) fuel depth field.name
    (none, slots) (':' :: cs)
  simp only [if_pos, Option.isSome_none, Bool.false_eq_true, if_false, orMalformed, ok_bind, h,
    readMark_cons cs (show isBlank ':' = false by decide)] at heq
  exact heq

/-- A member with another name is read into the slots of the other fields. -/
theorem Fields.readMember_other {field : Field} {shape : Shape} {others : Fields}
    {fuel depth : Nat} {name : String} {slot : Option shape.Value} {slots slots' : others.Slots}
    {cs rest : List Char} (hne : field.name ≠ name)
    (h : others.readMember fuel depth name slots cs = some (.ok (slots', rest))) :
    (Fields.cons field shape others).readMember fuel depth name (slot, slots) cs =
      some (.ok ((slot, slots'), rest)) := by
  have heq := Fields.readMember.eq_def (.cons field shape others) fuel depth name
    (slot, slots) cs
  simp only [if_neg hne, h] at heq
  rw [heq]
  rfl

mutual

/-- Every encoding of a value of a clear shape is read as that value. -/
theorem Shape.read_chars : ∀ (shape : Shape) {v : shape.Value} {j : Json} {fuel depth : Nat},
    shape.isClear = true → shape.IsDated v → shape.Encodes v j → shape.nesting ≤ depth →
    (chars .plain j).length ≤ fuel → ∀ rest : List Char,
    shape.read fuel depth (chars .plain j ++ rest) = .ok (v, rest)
  | .text, s, _, fuel, depth, _, _, h, _, _, rest => by
      rw [Shape.Encodes] at h
      rw [h]
      exact readText_quote s rest
  | .did, d, _, fuel, depth, _, _, h, _, _, rest => by
      rw [Shape.Encodes] at h
      rw [h]
      exact readChecked_quote (Did.read_text d) rest
  | .timestamp, t, _, fuel, depth, _, hdated, h, _, _, rest => by
      rw [Shape.Encodes] at h
      rw [h]
      exact readChecked_quote (Timestamp.read_text hdated) rest
  | .any, _, _, _, _, hclear, _, _, _, _, _ => by cases hclear
  | .choice variants, i, _, fuel, depth, hclear, _, h, _, _, rest => by
      rw [Shape.Encodes] at h
      rw [h]
      exact readChoice_quote (of_decide_eq_true hclear) i depth rest
  | .list item, vs, _, fuel, depth, hclear, hdated, h, hdepth, hfuel, rest => by
      obtain ⟨items, rfl, hitems⟩ := h
      obtain ⟨depth, rfl⟩ := Nat.exists_eq_succ_of_ne_zero (Nat.ne_zero_of_lt hdepth)
      rw [chars_array] at hfuel ⊢
      simp only [List.length_cons, List.length_append] at hfuel
      have hcount := Json.length_le_length_commas (items.map (chars .plain))
      have hread : List.Forall₂ (ReadsItem (item.read fuel depth)) vs
          (items.map (chars .plain)) := by
        refine List.forall₂_map_right_iff.mpr
          (List.forall₂_iff_get.mpr ⟨hitems.length_eq, fun i hi hi' => ?_⟩)
        have hitem := (List.forall₂_iff_get.mp hitems).2 i hi hi'
        have hdated := List.forall_iff_forall_mem.mp hdated _ (List.get_mem _ ⟨i, hi⟩)
        have hle := Json.length_le_of_mem_commas
          (List.mem_map_of_mem (f := chars .plain) (List.get_mem items ⟨i, hi'⟩))
        obtain ⟨c, tail, hc, hblank, hne, -⟩ := hitem.exists_head hclear
        exact ⟨⟨c, tail, hc, hblank, hne⟩, item.read_chars hclear hdated hitem
          (Nat.le_of_succ_le_succ hdepth) (by omega)⟩
      rw [List.cons_append, List.append_assoc, Shape.read_list]
      exact readList_commas hread (by omega) rest
  | .optional item, none, _, fuel, depth, _, _, h, _, _, rest => by
      rw [Shape.Encodes] at h
      rw [h]
      rfl
  | .optional item, some v, j, fuel, depth, hclear, hdated, h, hdepth, hfuel, rest => by
      have hitem : item.Encodes v j := h
      simp only [Shape.isClear, Bool.and_eq_true, Bool.not_eq_true'] at hclear
      have hread := item.read_chars hclear.2 hdated hitem hdepth hfuel rest
      obtain ⟨c, tail, hchars, hblank, -, hc⟩ := hitem.exists_head hclear.2
      rw [hchars, List.cons_append] at hread ⊢
      rw [Shape.read_optional hblank (hc hclear.1), hread]
      rfl
  | .record name fields, vs, _, fuel, depth, hclear, hdated, h, hdepth, hfuel, rest => by
      obtain ⟨written, members, rfl, hwritten, hperm⟩ := h
      obtain ⟨depth, rfl⟩ := Nat.exists_eq_succ_of_ne_zero (Nat.ne_zero_of_lt hdepth)
      simp only [Shape.isClear, Bool.and_eq_true, decide_eq_true_eq] at hclear
      rw [chars_object] at hfuel ⊢
      simp only [List.length_cons, List.length_append] at hfuel
      have hcount := Json.length_le_length_commas (members.map memberText)
      rw [List.length_map] at hcount
      have hread : ∀ m ∈ members, ReadsMember
          (fun name slots cs => fields.readMember fuel depth name slots cs) (fields.filled vs) m := by
        intro m hm
        have hle := Json.length_le_of_mem_commas (List.mem_map_of_mem (f := memberText) hm)
        rw [memberText, List.length_append, List.length_cons] at hle
        exact fields.readMember_chars hclear.2 hclear.1 hdated hwritten
          (Nat.le_of_succ_le_succ hdepth) (hperm.mem_iff.mp hm) (by omega)
      rw [List.cons_append, List.append_assoc]
      exact Shape.read_object hclear.2 hclear.1 hwritten hperm (by omega) hread rest

/-- A member of an encoding is read into the slot of its field. -/
theorem Fields.readMember_chars : ∀ (fields : Fields) {vs : fields.Values}
    {members : List (String × Json)} {m : String × Json} {fuel depth : Nat},
    fields.areClear = true → fields.names.Nodup → fields.AreDated vs → fields.Encode vs members →
    fields.nesting ≤ depth → m ∈ members → (chars .plain m.2).length ≤ fuel →
    ReadsMember (fun name slots cs => fields.readMember fuel depth name slots cs)
      (fields.filled vs) m
  | .nil, _, _, _, _, _, _, _, _, h, _, hm, _ => by
      rw [Fields.Encode] at h
      rw [h] at hm
      cases hm
  | .cons field shape others, (v, vs), _, m, fuel, depth, hclear, hnodup, hdated, h, hdepth, hm,
      hfuel => by
      intro names hname rest
      simp only [Fields.areClear, Bool.and_eq_true] at hclear
      obtain ⟨hfield, hnodup⟩ := List.nodup_cons.mp hnodup
      obtain ⟨j, members, hj, hmembers, rfl⟩ := h
      have hdepths := Nat.max_le.mp hdepth
      rcases List.mem_append.mp hm with hm | hm
      · rcases field.written_cases j with hwritten | ⟨-, -, hwritten⟩
        · rw [hwritten, List.mem_singleton] at hm
          subst hm
          have hread := shape.read_chars hclear.1 hdated.1 hj hdepths.1 hfuel rest
          have hslots := others.filled_cons_of_notMem vs names hfield
          simp only [Fields.filled, if_neg hname, hslots, if_pos List.mem_cons_self]
          exact Fields.readMember_first hread
        · rw [hwritten] at hm
          cases hm
      · have hother := others.readMember_chars hclear.2 hnodup hdated.2 hmembers hdepths.2 hm hfuel
          names hname rest
        have hne : field.name ≠ m.1 := fun heq =>
          hfield (heq ▸ hmembers.names_sublist.subset (List.mem_map_of_mem hm))
        have hmem : field.name ∈ m.1 :: names ↔ field.name ∈ names := by
          simp [hne]
        simp only [Fields.filled, hmem]
        exact Fields.readMember_other hne hother

end

/-- The text of an encoding is read as the value that it encodes. -/
theorem Shape.readAll_text {shape : Shape} {v : shape.Value} {j : Json}
    (hclear : shape.isClear = true) (hdated : shape.IsDated v) (h : shape.Encodes v j)
    (hdepth : shape.nesting ≤ Json.maxDepth) : shape.readAll (Json.text j) = .ok v := by
  have hfuel : (chars .plain j).length ≤ Json.fuelFor (chars .plain j) := by
    rw [Json.fuelFor]
    omega
  have hread := shape.read_chars hclear hdated h hdepth hfuel []
  rw [List.append_nil] at hread
  rw [Shape.readAll, Json.text, String.toList_ofList]
  simp only [hread, ok_bind]
  rfl

end WalletCredentials

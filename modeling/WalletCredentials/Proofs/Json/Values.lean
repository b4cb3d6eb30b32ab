import WalletCredentials.Proofs.Dictionary
import WalletCredentials.Proofs.Json.Scalars

/-!
# Reading back values

What the printer writes for a value is read as that value, the members of its objects taken
as a dictionary. The numbers of the value have to be read back, and its containers must not
lie too deep inside one another.
-/

namespace WalletCredentials.Json

mutual

/-- The value with the members of every object as a dictionary. -/
def normal : Json → Json
  | .array items => .array (normalItems items)
  | .object members => ofMembers (normalMembers members)
  | v => v

/-- Values with the members of their objects as dictionaries. -/
def normalItems : List Json → List Json
  | [] => []
  | v :: rest => normal v :: normalItems rest

/-- Members with the objects in their values as dictionaries. -/
def normalMembers : List (String × Json) → List (String × Json)
  | [] => []
  | (name, v) :: rest => (name, normal v) :: normalMembers rest

end

mutual

/-- The number of containers that lie inside one another. -/
def nesting : Json → Nat
  | .array items => nestingItems items + 1
  | .object members => nestingMembers members + 1
  | _ => 0

/-- The greatest number of containers inside one another in values. -/
def nestingItems : List Json → Nat
  | [] => 0
  | v :: rest => max (nesting v) (nestingItems rest)

/-- The greatest number of containers inside one another in the values of members. -/
def nestingMembers : List (String × Json) → Nat
  | [] => 0
  | (_, v) :: rest => max (nesting v) (nestingMembers rest)

end

mutual

/-- Tells that all numbers in a value are read back. -/
def Legible (style : Notation) : Json → Prop
  | .number n => n.ReadsBack style
  | .array items => LegibleItems style items
  | .object members => LegibleMembers style members
  | _ => True

/-- Tells that all numbers in values are read back. -/
def LegibleItems (style : Notation) : List Json → Prop
  | [] => True
  | v :: rest => Legible style v ∧ LegibleItems style rest

/-- Tells that all numbers in the values of members are read back. -/
def LegibleMembers (style : Notation) : List (String × Json) → Prop
  | [] => True
  | (_, v) :: rest => Legible style v ∧ LegibleMembers style rest

end

variable {style : Notation}

/-! ## First characters -/

/-- The characters that a number may start with. -/
def IsNumberHead (c : Char) : Prop := c = '-' ∨ Text.isDigit c = true

instance (c : Char) : Decidable (IsNumberHead c) := inferInstanceAs (Decidable (_ ∨ _))

theorem IsNumberHead.ne {c d : Char} (h : IsNumberHead c) (hd : ¬IsNumberHead d) : c ≠ d := by
  rintro rfl
  exact hd h

theorem IsNumberHead.isBlank_eq {c : Char} (h : IsNumberHead c) : isBlank c = false := by
  have hspace := h.ne (d := ' ') (by decide)
  have hline := h.ne (d := '\n') (by decide)
  have htab := h.ne (d := '\t') (by decide)
  have hreturn := h.ne (d := '\r') (by decide)
  simp [isBlank, hspace, hline, htab, hreturn]

theorem exists_head_of_readDigits {cs ds rest : List Char} (h : readDigits cs = some (ds, rest)) :
    ∃ c tail, cs = c :: tail ∧ Text.isDigit c = true := by
  cases cs with
  | nil => cases h
  | cons c tail =>
      refine ⟨c, tail, rfl, ?_⟩
      by_contra hc
      rw [readDigits, List.takeWhile_cons_of_neg hc] at h
      cases h

/-- What is read as a number starts as a number does. -/
theorem exists_head_of_readNumber {cs : List Char} {result : Number × List Char}
    (h : readNumber cs = some result) : ∃ c tail, cs = c :: tail ∧ IsNumberHead c := by
  obtain ⟨⟨numeral, rest⟩, hnumeral, -⟩ := Option.bind_eq_some_iff.mp h
  rw [readNumeral.eq_def] at hnumeral
  split at hnumeral
  · rename_i rest'
    exact ⟨'-', rest', rfl, .inl rfl⟩
  · obtain ⟨⟨whole, rest'⟩, hdigits, -⟩ := Option.bind_eq_some_iff.mp hnumeral
    obtain ⟨c, tail, hcs, hc⟩ := exists_head_of_readDigits hdigits
    exact ⟨c, tail, hcs, .inr hc⟩

theorem exists_number_head {n : Number} (h : n.ReadsBack style) :
    ∃ c tail, numberChars style n = c :: tail ∧ IsNumberHead c := by
  have hread := h [] (by simp [Delimited])
  rw [List.append_nil] at hread
  exact exists_head_of_readNumber hread

theorem skipBlanks_cons {c : Char} (cs : List Char) (h : isBlank c = false) :
    skipBlanks (c :: cs) = c :: cs := by
  simp [skipBlanks, h]

theorem readMark_cons {mark : Char} (cs : List Char) (h : isBlank mark = false) :
    readMark mark (mark :: cs) = some cs := by
  rw [readMark, skipBlanks_cons cs h]
  simp

theorem readMark_cons_of_ne {mark c : Char} (cs : List Char) (h : isBlank c = false)
    (hne : c ≠ mark) : readMark mark (c :: cs) = none := by
  rw [readMark, skipBlanks_cons cs h]
  simp [hne]

/-- What is written for a value starts neither with a blank nor with a closing bracket. -/
theorem exists_head {v : Json} (h : Legible style v) :
    ∃ c tail, chars style v = c :: tail ∧ isBlank c = false ∧ c ≠ ']' := by
  cases v with
  | null => exact ⟨'n', _, rfl, by decide, by decide⟩
  | bool b =>
      cases b with
      | true => exact ⟨'t', _, rfl, by decide, by decide⟩
      | false => exact ⟨'f', _, rfl, by decide, by decide⟩
  | number n =>
      obtain ⟨c, tail, hchars, hc⟩ := exists_number_head h
      exact ⟨c, tail, hchars, hc.isBlank_eq, hc.ne (by decide)⟩
  | string s => exact ⟨'"', _, rfl, by decide, by decide⟩
  | array items => exact ⟨'[', _, rfl, by decide, by decide⟩
  | object members => exact ⟨'{', _, rfl, by decide, by decide⟩

/-- A value that starts with no bracket is no container. -/
theorem readValue_scalar {c : Char} (cs : List Char) (fuel depth : Nat) (hblank : isBlank c = false)
    (harray : c ≠ '[') (hobject : c ≠ '{') :
    readValue (fuel + 1) depth (c :: cs) = readScalar (c :: cs) := by
  rw [readValue]
  · rw [skipBlanks_cons cs hblank]
  all_goals simp [skipBlanks_cons cs hblank, harray, hobject]

theorem readValue_array (cs : List Char) (fuel depth : Nat) :
    readValue (fuel + 1) (depth + 1) ('[' :: cs) =
      match readMark ']' cs with
      | some rest => some (.array [], rest)
      | none => (readItems fuel depth cs).map fun (items, r) => (.array items, r) := by
  have h := readValue.eq_def (fuel + 1) (depth + 1) ('[' :: cs)
  simp only [skipBlanks_cons (c := '[') cs (by decide)] at h
  exact h

theorem readValue_object (cs : List Char) (fuel depth : Nat) :
    readValue (fuel + 1) (depth + 1) ('{' :: cs) =
      match readMark '}' cs with
      | some rest => some (.object [], rest)
      | none => (readMembers fuel depth cs).map fun (ms, r) => (ofMembers ms, r) := by
  have h := readValue.eq_def (fuel + 1) (depth + 1) ('{' :: cs)
  simp only [skipBlanks_cons (c := '{') cs (by decide)] at h
  exact h

/-- An item is followed by the bracket of its array, or by a comma and more items. -/
theorem readItems_of_readValue {fuel depth : Nat} {cs rest : List Char} {v : Json}
    (h : readValue fuel depth cs = some (v, ']' :: rest)) :
    readItems (fuel + 1) depth cs = some ([v], rest) := by
  rw [readItems, h]
  simp only [Option.bind_eq_bind, Option.bind_some]
  rw [skipBlanks_cons rest (by decide)]
  rfl

theorem readItems_of_readValue_comma {fuel depth : Nat} {cs rest rest' : List Char} {v : Json}
    {items : List Json} (h : readValue fuel depth cs = some (v, ',' :: rest))
    (hitems : readItems fuel depth rest = some (items, rest')) :
    readItems (fuel + 1) depth cs = some (v :: items, rest') := by
  rw [readItems, h]
  simp only [Option.bind_eq_bind, Option.bind_some]
  rw [skipBlanks_cons rest (by decide)]
  simp only [hitems, Option.bind_some]
  rfl

theorem readName_quote (name : String) (rest : List Char) :
    readName (quote name ++ ':' :: rest) = some (name, rest) := by
  have hcolon : readMark ':' (':' :: rest) = some rest := readMark_cons rest (by decide)
  rw [quote_append, readName, readMark_cons _ (by decide)]
  simp only [Option.bind_eq_bind, Option.bind_some, readString_flatMap, hcolon,
    String.ofList_toList]
  rfl

/-- A member is followed by the brace of its object, or by a comma and more members. -/
theorem readMembers_of_readValue {fuel depth : Nat} {name : String} {cs rest : List Char}
    {v : Json} (h : readValue fuel depth cs = some (v, '}' :: rest)) :
    readMembers (fuel + 1) depth (quote name ++ ':' :: cs) = some ([(name, v)], rest) := by
  rw [readMembers, readName_quote]
  simp only [Option.bind_eq_bind, Option.bind_some, h]
  rw [skipBlanks_cons rest (by decide)]
  rfl

theorem readMembers_of_readValue_comma {fuel depth : Nat} {name : String}
    {cs rest rest' : List Char} {v : Json} {members : List (String × Json)}
    (h : readValue fuel depth cs = some (v, ',' :: rest))
    (hmembers : readMembers fuel depth rest = some (members, rest')) :
    readMembers (fuel + 1) depth (quote name ++ ':' :: cs) = some ((name, v) :: members, rest') := by
  rw [readMembers, readName_quote]
  simp only [Option.bind_eq_bind, Option.bind_some, h]
  rw [skipBlanks_cons rest (by decide)]
  simp only [hmembers, Option.bind_some]
  rfl

theorem delimited_cons {c : Char} (cs : List Char) (h : c = ',' ∨ c = ']' ∨ c = '}') :
    Delimited (c :: cs) := by
  rintro d ⟨⟩
  exact h

theorem chars_length_pos {v : Json} (h : Legible style v) : 0 < (chars style v).length := by
  obtain ⟨c, tail, hchars, -⟩ := exists_head h
  simp [hchars]

theorem commas_cons_cons (a b : List Char) (rest : List (List Char)) :
    commas (a :: b :: rest) = a ++ ',' :: commas (b :: rest) := rfl

/-- The lists after the first stand each after a comma. -/
theorem commas_cons (a : List Char) (rest : List (List Char)) :
    commas (a :: rest) = a ++ rest.flatMap fun cs => ',' :: cs := by
  induction rest generalizing a with
  | nil => simp [commas]
  | cons b rest ih => rw [commas_cons_cons, ih, List.flatMap_cons, List.cons_append]

theorem length_le_of_mem_commas {cs : List Char} {texts : List (List Char)} (h : cs ∈ texts) :
    cs.length ≤ (commas texts).length := by
  cases texts with
  | nil => cases h
  | cons a rest =>
      rw [commas_cons, List.length_append]
      rcases List.mem_cons.mp h with rfl | hrest
      · exact Nat.le_add_right _ _
      · have hsublist := (List.sublist_flatten_of_mem
          (List.mem_map_of_mem (f := fun cs => ',' :: cs) hrest)).length_le
        rw [List.length_cons, ← List.flatMap_def] at hsublist
        omega

/-- Joined lists are separated, and so they are as long as there are lists, one excepted. -/
theorem length_le_length_commas (texts : List (List Char)) :
    texts.length ≤ (commas texts).length + 1 := by
  cases texts with
  | nil => exact Nat.zero_le _
  | cons a rest =>
      have hrest : rest.length ≤ (rest.flatMap fun cs => ',' :: cs).length := by
        induction rest with
        | nil => exact Nat.le_refl 0
        | cons b rest ih =>
            rw [List.flatMap_cons, List.length_append, List.length_cons, List.length_cons]
            omega
      rw [commas_cons, List.length_append, List.length_cons]
      omega

theorem readScalar_number {c : Char} (cs : List Char) (hc : IsNumberHead c) :
    readScalar (c :: cs) = (readNumber (c :: cs)).map fun (n, r) => (.number n, r) := by
  rw [readScalar]
  all_goals
    intro rest h
    have hhead := (List.cons_eq_cons.mp h).1
    subst hhead
    revert hc
    decide

/-! ## Whole values -/

theorem exists_fuel_eq {v : Json} {fuel : Nat} (h : Legible style v)
    (hfuel : 2 * (chars style v).length ≤ fuel) : ∃ fuel', fuel = fuel' + 1 := by
  have hpos := chars_length_pos h
  exact Nat.exists_eq_add_one.mpr (by omega)

theorem readValue_chars_emptyArray {fuel depth : Nat} (rest : List Char) :
    readValue (fuel + 1) (depth + 1) (chars style (.array []) ++ rest) = some (.array [], rest) := by
  have hchars : chars style (.array []) ++ rest = '[' :: ']' :: rest := rfl
  rw [hchars, readValue_array, readMark_cons _ (by decide)]

/-- An array is read once its items are, up to its closing bracket. -/
theorem readValue_chars_array {items values : List Json} {fuel depth : Nat} {rest : List Char}
    (hne : items ≠ []) (hlegible : LegibleItems style items)
    (hread : readItems fuel depth (commas (itemChars style items) ++ ']' :: rest) =
      some (values, rest)) :
    readValue (fuel + 1) (depth + 1) (chars style (.array items) ++ rest) =
      some (.array values, rest) := by
  obtain ⟨v, items, rfl⟩ := List.exists_cons_of_ne_nil hne
  have hchars : chars style (.array (v :: items)) ++ rest =
      '[' :: (commas (itemChars style (v :: items)) ++ ']' :: rest) := by
    simp [chars]
  -- The bracket does not close before the first item, which begins with a character of its own.
  have hmark : readMark ']' (commas (itemChars style (v :: items)) ++ ']' :: rest) = none := by
    obtain ⟨c, tail, hhead, hblank, hbracket⟩ := exists_head hlegible.1
    rw [itemChars, commas_cons, hhead]
    exact readMark_cons_of_ne _ hblank hbracket
  rw [hchars, readValue_array, hmark, hread]
  rfl

theorem readValue_chars_emptyObject {fuel depth : Nat} (rest : List Char) :
    readValue (fuel + 1) (depth + 1) (chars style (.object []) ++ rest) =
      some (.object [], rest) := by
  have hchars : chars style (.object []) ++ rest = '{' :: '}' :: rest := rfl
  rw [hchars, readValue_object, readMark_cons _ (by decide)]

/-- An object is read once its members are, up to its closing brace. -/
theorem readValue_chars_object {members values : List (String × Json)} {fuel depth : Nat}
    {rest : List Char} (hne : members ≠ [])
    (hread : readMembers fuel depth (commas (memberChars style members) ++ '}' :: rest) =
      some (values, rest)) :
    readValue (fuel + 1) (depth + 1) (chars style (.object members) ++ rest) =
      some (ofMembers values, rest) := by
  obtain ⟨⟨name, v⟩, members, rfl⟩ := List.exists_cons_of_ne_nil hne
  have hchars : chars style (.object ((name, v) :: members)) ++ rest =
      '{' :: (commas (memberChars style ((name, v) :: members)) ++ '}' :: rest) := by
    simp [chars]
  have hmark :
      readMark '}' (commas (memberChars style ((name, v) :: members)) ++ '}' :: rest) = none := by
    rw [memberChars, commas_cons]
    exact readMark_cons_of_ne (c := '"') _ (by decide) (by decide)
  rw [hchars, readValue_object, hmark, hread]
  rfl

mutual

/-- What is written for a value is read as it. -/
theorem readValue_chars : ∀ (v : Json) {fuel depth : Nat} {rest : List Char},
    Legible style v → nesting v ≤ depth → 2 * (chars style v).length ≤ fuel → Delimited rest →
    readValue fuel depth (chars style v ++ rest) = some (normal v, rest)
  | .null, fuel, depth, rest, hlegible, _, hfuel, _ => by
      obtain ⟨fuel, rfl⟩ := exists_fuel_eq hlegible hfuel
      exact readValue_scalar (c := 'n') _ _ _ (by decide) (by decide) (by decide)
  | .bool true, fuel, depth, rest, hlegible, _, hfuel, _ => by
      obtain ⟨fuel, rfl⟩ := exists_fuel_eq hlegible hfuel
      exact readValue_scalar (c := 't') _ _ _ (by decide) (by decide) (by decide)
  | .bool false, fuel, depth, rest, hlegible, _, hfuel, _ => by
      obtain ⟨fuel, rfl⟩ := exists_fuel_eq hlegible hfuel
      exact readValue_scalar (c := 'f') _ _ _ (by decide) (by decide) (by decide)
  | .number n, fuel, depth, rest, hlegible, _, hfuel, hrest => by
      obtain ⟨fuel, rfl⟩ := exists_fuel_eq hlegible hfuel
      obtain ⟨c, tail, hchars, hc⟩ := exists_number_head hlegible
      have hread := hlegible rest hrest
      rw [hchars, List.cons_append] at hread
      rw [chars, hchars, List.cons_append, readValue_scalar _ _ _ hc.isBlank_eq
        (hc.ne (by decide)) (hc.ne (by decide)), readScalar_number _ hc, hread]
      rfl
  | .string s, fuel, depth, rest, hlegible, _, hfuel, _ => by
      obtain ⟨fuel, rfl⟩ := exists_fuel_eq hlegible hfuel
      rw [chars, quote_append, readValue_scalar _ _ _ (by decide) (by decide) (by decide), readScalar,
        readString_flatMap]
      simp [normal]
  | .array [], fuel, depth, rest, hlegible, hdepth, hfuel, _ => by
      obtain ⟨fuel, rfl⟩ := exists_fuel_eq hlegible hfuel
      obtain ⟨depth, rfl⟩ := Nat.exists_eq_add_one.mpr (Nat.zero_lt_of_lt hdepth)
      exact readValue_chars_emptyArray rest
  | .array (v :: items), fuel, depth, rest, hlegible, hdepth, hfuel, _ => by
      obtain ⟨fuel, rfl⟩ := exists_fuel_eq hlegible hfuel
      obtain ⟨depth, rfl⟩ := Nat.exists_eq_add_one.mpr (Nat.zero_lt_of_lt hdepth)
      refine readValue_chars_array (by simp) hlegible
        (readItems_chars (v :: items) (by simp) hlegible (Nat.le_of_succ_le_succ hdepth) ?_)
      simp only [chars, List.length_append, List.length_cons] at hfuel
      omega
  | .object [], fuel, depth, rest, hlegible, hdepth, hfuel, _ => by
      obtain ⟨fuel, rfl⟩ := exists_fuel_eq hlegible hfuel
      obtain ⟨depth, rfl⟩ := Nat.exists_eq_add_one.mpr (Nat.zero_lt_of_lt hdepth)
      exact readValue_chars_emptyObject rest
  | .object ((name, v) :: members), fuel, depth, rest, hlegible, hdepth, hfuel, _ => by
      obtain ⟨fuel, rfl⟩ := exists_fuel_eq hlegible hfuel
      obtain ⟨depth, rfl⟩ := Nat.exists_eq_add_one.mpr (Nat.zero_lt_of_lt hdepth)
      refine readValue_chars_object (by simp) (readMembers_chars ((name, v) :: members) (by simp)
        hlegible (Nat.le_of_succ_le_succ hdepth) ?_)
      simp only [chars, List.length_append, List.length_cons] at hfuel
      omega

/-- What is written for the items of an array is read as them. -/
theorem readItems_chars : ∀ (items : List Json) {fuel depth : Nat} {rest : List Char},
    items ≠ [] → LegibleItems style items → nestingItems items ≤ depth →
    2 * (commas (itemChars style items)).length < fuel →
    readItems fuel depth (commas (itemChars style items) ++ ']' :: rest) =
      some (normalItems items, rest)
  | [], _, _, _, h, _, _, _ => absurd rfl h
  | [v], fuel, depth, rest, _, hlegible, hdepth, hfuel => by
      obtain ⟨fuel, rfl⟩ := Nat.exists_eq_add_one.mpr (Nat.zero_lt_of_lt hfuel)
      simp only [itemChars, commas] at hfuel ⊢
      exact readItems_of_readValue (readValue_chars v hlegible.1
        (by simpa [nestingItems] using hdepth) (by omega) (delimited_cons _ (by simp)))
  | v :: w :: items, fuel, depth, rest, _, hlegible, hdepth, hfuel => by
      obtain ⟨fuel, rfl⟩ := Nat.exists_eq_add_one.mpr (Nat.zero_lt_of_lt hfuel)
      simp only [nestingItems, Nat.max_le] at hdepth
      rw [itemChars, itemChars, commas_cons_cons] at hfuel ⊢
      simp only [List.length_append, List.length_cons] at hfuel
      rw [List.append_assoc, List.cons_append]
      refine readItems_of_readValue_comma (readValue_chars v hlegible.1 hdepth.1 (by omega)
        (delimited_cons _ (by simp))) ?_
      exact readItems_chars (w :: items) (by simp) hlegible.2
        (by simpa only [nestingItems, Nat.max_le] using hdepth.2) (by rw [itemChars]; omega)

/-- What is written for the members of an object is read as them. -/
theorem readMembers_chars : ∀ (members : List (String × Json)) {fuel depth : Nat} {rest : List Char},
    members ≠ [] → LegibleMembers style members → nestingMembers members ≤ depth →
    2 * (commas (memberChars style members)).length < fuel →
    readMembers fuel depth (commas (memberChars style members) ++ '}' :: rest) =
      some (normalMembers members, rest)
  | [], _, _, _, h, _, _, _ => absurd rfl h
  | [(name, v)], fuel, depth, rest, _, hlegible, hdepth, hfuel => by
      obtain ⟨fuel, rfl⟩ := Nat.exists_eq_add_one.mpr (Nat.zero_lt_of_lt hfuel)
      simp only [memberChars, commas, List.length_append, List.length_cons, List.append_assoc,
        List.cons_append] at hfuel ⊢
      exact readMembers_of_readValue (readValue_chars v hlegible.1
        (by simpa [nestingMembers] using hdepth) (by omega) (delimited_cons _ (by simp)))
  | (name, v) :: (name', w) :: members, fuel, depth, rest, _, hlegible, hdepth, hfuel => by
      obtain ⟨fuel, rfl⟩ := Nat.exists_eq_add_one.mpr (Nat.zero_lt_of_lt hfuel)
      simp only [nestingMembers, Nat.max_le] at hdepth
      rw [memberChars, memberChars, commas_cons_cons] at hfuel ⊢
      simp only [List.length_append, List.length_cons] at hfuel
      rw [List.append_assoc, List.append_assoc, List.cons_append, List.cons_append]
      refine readMembers_of_readValue_comma (readValue_chars v hlegible.1 hdepth.1 (by omega)
        (delimited_cons _ (by simp))) ?_
      exact readMembers_chars ((name', w) :: members) (by simp) hlegible.2
        (by simpa only [nestingMembers, Nat.max_le] using hdepth.2) (by rw [memberChars]; omega)

end

theorem readCharsWithin_chars {v : Json} {depth : Nat} (hlegible : Legible style v)
    (hdepth : nesting v ≤ depth) : readCharsWithin depth (chars style v) = some (normal v) := by
  have hread : readValue (fuelFor (chars style v)) depth (chars style v ++ []) =
      some (normal v, []) :=
    readValue_chars v hlegible hdepth (by rw [fuelFor]; omega) (by simp [Delimited])
  rw [List.append_nil] at hread
  rw [readCharsWithin, hread]
  rfl

/-! ## Values that survive -/

theorem nestingItems_le_iff {items : List Json} {depth : Nat} :
    nestingItems items ≤ depth ↔ ∀ v ∈ items, nesting v ≤ depth := by
  induction items with
  | nil => simp [nestingItems]
  | cons v rest ih => simp only [nestingItems, Nat.max_le, ih, List.forall_mem_cons]

theorem nestingMembers_le_iff {members : List (String × Json)} {depth : Nat} :
    nestingMembers members ≤ depth ↔ ∀ m ∈ members, nesting m.2 ≤ depth := by
  induction members with
  | nil => simp [nestingMembers]
  | cons m rest ih =>
      obtain ⟨name, v⟩ := m
      simp only [nestingMembers, Nat.max_le, ih, List.forall_mem_cons]

theorem legibleItems_iff {items : List Json} :
    LegibleItems style items ↔ ∀ v ∈ items, Legible style v := by
  induction items with
  | nil => simp [LegibleItems]
  | cons v rest ih => simp [LegibleItems, ih]

theorem legibleMembers_iff {members : List (String × Json)} :
    LegibleMembers style members ↔ ∀ m ∈ members, Legible style m.2 := by
  induction members with
  | nil => simp [LegibleMembers]
  | cons m rest ih =>
      obtain ⟨name, v⟩ := m
      simp only [LegibleMembers, ih, List.forall_mem_cons]

theorem normalItems_eq_map (items : List Json) : normalItems items = items.map normal := by
  induction items with
  | nil => rfl
  | cons v rest ih => rw [normalItems, ih, List.map_cons]

theorem normalMembers_eq_map (members : List (String × Json)) :
    normalMembers members = members.map fun m => (m.1, normal m.2) := by
  induction members with
  | nil => rfl
  | cons m rest ih => rw [normalMembers, ih, List.map_cons]

theorem normalItems_eq_self {items : List Json} (h : ∀ v ∈ items, normal v = v) :
    normalItems items = items := calc
  normalItems items = items.map normal := normalItems_eq_map items
  _ = items.map id := List.map_congr_left h
  _ = items := List.map_id items

theorem normalMembers_eq_self {members : List (String × Json)}
    (h : ∀ m ∈ members, normal m.2 = m.2) : normalMembers members = members := calc
  normalMembers members = members.map fun m => (m.1, normal m.2) := normalMembers_eq_map members
  _ = members.map id := List.map_congr_left fun m hm => Prod.ext rfl (h m hm)
  _ = members := List.map_id members

/-- Tells that a value comes through its text unchanged: its numbers are read back, the
members of its objects are dictionaries, and at most `depth` containers lie inside one
another. -/
structure Survives (depth : Nat) (v : Json) : Prop where
  legible : Legible .plain v
  normal_eq : normal v = v
  nesting_le : nesting v ≤ depth

namespace Survives

variable {depth : Nat}

theorem string (s : String) : Survives depth (.string s) :=
  ⟨trivial, rfl, Nat.zero_le _⟩

theorem mono {depth' : Nat} {v : Json} (h : Survives depth v) (hle : depth ≤ depth') :
    Survives depth' v :=
  ⟨h.legible, h.normal_eq, Nat.le_trans h.nesting_le hle⟩

theorem array {items : List Json} (h : ∀ v ∈ items, Survives depth v) :
    Survives (depth + 1) (.array items) where
  legible := legibleItems_iff.mpr fun v hv => (h v hv).legible
  normal_eq := congrArg Json.array (normalItems_eq_self fun v hv => (h v hv).normal_eq)
  nesting_le := Nat.succ_le_succ (nestingItems_le_iff.mpr fun v hv => (h v hv).nesting_le)

theorem object {members : List (String × Json)} (hsorted : Dictionary.Sorted members)
    (h : ∀ m ∈ members, Survives depth m.2) : Survives (depth + 1) (.object members) where
  legible := legibleMembers_iff.mpr fun m hm => (h m hm).legible
  normal_eq := by
    rw [normal, normalMembers_eq_self fun m hm => (h m hm).normal_eq, ofMembers, hsorted.ofList_eq]
  nesting_le := Nat.succ_le_succ (nestingMembers_le_iff.mpr fun m hm => (h m hm).nesting_le)

theorem strings (texts : List String) : Survives (depth + 1) (.strings texts) := by
  refine array fun v hv => ?_
  obtain ⟨s, -, rfl⟩ := List.mem_map.mp hv
  exact string s

/-- A value that survives is read back from its text. -/
theorem read?_text {v : Json} (h : Survives maxDepth v) : read? (text v) = some v := by
  rw [read?, text, String.toList_ofList, readCharsWithin_chars h.legible h.nesting_le, h.normal_eq]

end Survives

end WalletCredentials.Json

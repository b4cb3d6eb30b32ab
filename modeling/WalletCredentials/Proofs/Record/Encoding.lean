import Mathlib.Data.List.Forall2
import WalletCredentials.Proofs.Dictionary
import WalletCredentials.Proofs.Timestamp.Text
import WalletCredentials.Record.Shape

/-!
# The JSON of records

The members of an object come in any order, and so a record has several encodings, which differ
in the order of members at each depth. A shape is clear if an encoding tells the values of the
shape apart: the names in it differ, and nothing is not a value of what is optional.
-/

namespace WalletCredentials

/-- The members that a field puts into an object for a value: none where it is left out. -/
def Field.written (field : Field) : Json → List (String × Json)
  | .null => if field.omitted then [] else [(field.name, .null)]
  | j => [(field.name, j)]

mutual

/-- Tells that JSON encodes a value, the members of each record in any order. -/
def Shape.Encodes : (shape : Shape) → shape.Value → Json → Prop
  | .text, s, j => j = .string s
  | .did, d, j => j = .string d.text
  | .timestamp, t, j => j = .string t.text
  | .any, v, j => j = v
  | .choice variants, i, j => j = .string (variants.get i)
  | .list item, vs, j => ∃ items, j = .array items ∧ List.Forall₂ item.Encodes vs items
  | .optional _, none, j => j = .null
  | .optional item, some v, j => item.Encodes v j
  | .record _ fields, vs, j =>
      ∃ written members, j = .object members ∧ fields.Encode vs written ∧ members.Perm written

/-- Tells that members are those of the fields of a record, in their order. -/
def Fields.Encode : (fields : Fields) → fields.Values → List (String × Json) → Prop
  | .nil, _, members => members = []
  | .cons field shape rest, (v, vs), members =>
      ∃ j others, shape.Encodes v j ∧ rest.Encode vs others ∧ members = field.written j ++ others

end

/-- Tells whether a shape is that of a value or nothing. -/
def Shape.isOptional : Shape → Bool
  | .optional _ => true
  | _ => false

/-- The names of the fields. -/
def Fields.names : Fields → List String
  | .nil => []
  | .cons field _ rest => field.name :: rest.names

mutual

/-- Tells whether different values of a shape have different encodings, as far as the shape itself
decides. -/
def Shape.isClear : Shape → Bool
  | .text => true
  | .did => true
  | .timestamp => true
  | .any => false
  | .choice variants => decide variants.Nodup
  | .list item => item.isClear
  | .optional item => !item.isOptional && item.isClear
  | .record _ fields => decide fields.names.Nodup && fields.areClear

/-- Tells whether all fields have clear shapes. -/
def Fields.areClear : Fields → Bool
  | .nil => true
  | .cons _ shape rest => shape.isClear && rest.areClear

end

mutual

/-- The greatest number of containers inside one another in the encodings of a shape. -/
def Shape.nesting : Shape → Nat
  | .list item => item.nesting + 1
  | .optional item => item.nesting
  | .record _ fields => fields.nesting + 1
  | _ => 0

/-- The greatest number of containers inside one another in the encodings of fields. -/
def Fields.nesting : Fields → Nat
  | .nil => 0
  | .cons _ shape rest => max shape.nesting rest.nesting

end

mutual

/-- Tells that the years of all times in a value have four digits. -/
def Shape.IsDated : (shape : Shape) → shape.Value → Prop
  | .timestamp, t => t.HasFourDigitYear
  | .list item, vs => List.Forall item.IsDated vs
  | .optional item, some v => item.IsDated v
  | .record _ fields, vs => fields.AreDated vs
  | _, _ => True

/-- Tells that the years of all times in the values of fields have four digits. -/
def Fields.AreDated : (fields : Fields) → fields.Values → Prop
  | .nil, _ => True
  | .cons _ shape rest, (v, vs) => shape.IsDated v ∧ rest.AreDated vs

end

mutual

/-- Tells whether the values of a shape hold no times. -/
def Shape.isTimeless : Shape → Bool
  | .timestamp => false
  | .list item => item.isTimeless
  | .optional item => item.isTimeless
  | .record _ fields => fields.areTimeless
  | _ => true

/-- Tells whether the values of fields hold no times. -/
def Fields.areTimeless : Fields → Bool
  | .nil => true
  | .cons _ shape rest => shape.isTimeless && rest.areTimeless

end

mutual

theorem Shape.isDated_of_isTimeless : ∀ (shape : Shape), shape.isTimeless = true →
    ∀ v : shape.Value, shape.IsDated v
  | .text, _, _ => trivial
  | .did, _, _ => trivial
  | .timestamp, h, _ => by cases h
  | .any, _, _ => trivial
  | .choice _, _, _ => trivial
  | .list item, h, vs => by
      rw [Shape.isTimeless] at h
      exact List.forall_iff_forall_mem.mpr fun v _ => item.isDated_of_isTimeless h v
  | .optional _, _, none => trivial
  | .optional item, h, some v => by
      rw [Shape.isTimeless] at h
      exact item.isDated_of_isTimeless h v
  | .record _ fields, h, vs => by
      rw [Shape.isTimeless] at h
      exact fields.areDated_of_areTimeless h vs

theorem Fields.areDated_of_areTimeless : ∀ (fields : Fields), fields.areTimeless = true →
    ∀ vs : fields.Values, fields.AreDated vs
  | .nil, _, _ => trivial
  | .cons _ shape rest, h, (v, vs) => by
      simp only [Fields.areTimeless, Bool.and_eq_true] at h
      exact ⟨shape.isDated_of_isTimeless h.1 v, rest.areDated_of_areTimeless h.2 vs⟩

end

/-- A field is written with its name, or it is left out. -/
theorem Field.written_cases (field : Field) (j : Json) : field.written j = [(field.name, j)] ∨
    field.omitted = true ∧ j = .null ∧ field.written j = [] := by
  cases j with
  | null =>
      rw [Field.written]
      split
      · rename_i homitted
        exact .inr ⟨homitted, rfl, rfl⟩
      · exact .inl rfl
  | bool b => exact .inl rfl
  | number n => exact .inl rfl
  | string s => exact .inl rfl
  | array items => exact .inl rfl
  | object members => exact .inl rfl

/-- A record names its fields in order, those that are left out excepted. -/
theorem Fields.Encode.names_sublist : ∀ {fields : Fields} {vs : fields.Values}
    {members : List (String × Json)}, fields.Encode vs members →
    (members.map Prod.fst).Sublist fields.names
  | .nil, _, _, h => by
      rw [Fields.Encode] at h
      rw [h]
      exact List.nil_sublist _
  | .cons field shape rest, (v, vs), members, h => by
      obtain ⟨j, others, -, hothers, rfl⟩ := h
      have hrest := hothers.names_sublist
      rcases field.written_cases j with hwritten | ⟨-, -, hwritten⟩
      · rw [hwritten]
        exact hrest.cons_cons _
      · rw [hwritten]
        exact hrest.cons _

/-- The names of the members of a record differ if those of its fields do. -/
theorem Fields.Encode.nodup {fields : Fields} {vs : fields.Values}
    {members : List (String × Json)} (h : fields.Encode vs members) (hnames : fields.names.Nodup) :
    (members.map Prod.fst).Nodup :=
  hnames.sublist h.names_sublist

theorem Fields.members_cons (field : Field) (shape : Shape) (rest : Fields)
    (v : shape.Value) (vs : rest.Values) : (Fields.cons field shape rest).members (v, vs) =
      field.written (shape.toJson v) ++ rest.members vs := by
  rw [Fields.members]
  rcases field.written_cases (shape.toJson v) with h | ⟨homitted, hnull, h⟩
  · rw [h]
    split
    · rename_i hnull homitted
      rw [hnull, Field.written, if_pos homitted] at h
      cases h
    · rfl
  · rw [h, hnull, homitted]
    rfl

/-! ## What is written is an encoding -/

mutual

theorem Shape.encodes_toJson : ∀ (shape : Shape), shape.isClear = true → ∀ v : shape.Value,
    shape.Encodes v (shape.toJson v)
  | .text, _, s => by rw [Shape.toJson, Shape.Encodes]
  | .did, _, d => by rw [Shape.toJson, Shape.Encodes]
  | .timestamp, _, t => by rw [Shape.toJson, Shape.Encodes]
  | .any, h, _ => by cases h
  | .choice variants, _, i => by rw [Shape.toJson, Shape.Encodes]
  | .list item, h, vs => by
      rw [Shape.isClear] at h
      rw [Shape.toJson, Shape.Encodes]
      exact ⟨_, rfl, List.forall₂_map_right_iff.mpr <| List.forall₂_same.mpr fun v _ =>
        item.encodes_toJson h v⟩
  | .optional item, _, none => by rw [Shape.toJson, Shape.Encodes]
  | .optional item, h, some v => by
      simp only [Shape.isClear, Bool.and_eq_true] at h
      rw [Shape.toJson, Shape.Encodes]
      exact item.encodes_toJson h.2 v
  | .record name fields, h, vs => by
      simp only [Shape.isClear, Bool.and_eq_true, decide_eq_true_eq] at h
      have hmembers := fields.encode_members h.2 vs
      rw [Shape.toJson, Shape.Encodes]
      exact ⟨_, _, rfl, hmembers, Dictionary.perm_ofList (hmembers.nodup h.1)⟩

theorem Fields.encode_members : ∀ (fields : Fields), fields.areClear = true →
    ∀ vs : fields.Values, fields.Encode vs (fields.members vs)
  | .nil, _, _ => by rw [Fields.members, Fields.Encode]
  | .cons field shape rest, h, (v, vs) => by
      simp only [Fields.areClear, Bool.and_eq_true] at h
      rw [Fields.members_cons, Fields.Encode]
      exact ⟨_, _, shape.encodes_toJson h.1 v, rest.encode_members h.2 vs, rfl⟩

end

/-- The JSON of a value is a string, an array or an object, or null in place of what is
optional. -/
theorem Shape.Encodes.kind : ∀ {shape : Shape} {v : shape.Value} {j : Json}, shape.Encodes v j →
    shape.isClear = true → (∃ s, j = .string s) ∨ (∃ items, j = .array items) ∨
      (∃ members, j = .object members) ∨ (shape.isOptional = true ∧ j = .null)
  | .text, _, _, h, _ => .inl ⟨_, h⟩
  | .did, _, _, h, _ => .inl ⟨_, h⟩
  | .timestamp, _, _, h, _ => .inl ⟨_, h⟩
  | .any, _, _, _, hclear => by cases hclear
  | .choice variants, _, _, h, _ => .inl ⟨_, h⟩
  | .list item, _, _, h, _ => by
      obtain ⟨items, rfl, -⟩ := h
      exact .inr (.inl ⟨items, rfl⟩)
  | .optional item, none, _, h, _ => .inr (.inr (.inr ⟨rfl, h⟩))
  | .optional item, some v, _, h, hclear => by
      simp only [Shape.isClear, Bool.and_eq_true, Bool.not_eq_true'] at hclear
      have hitem : item.Encodes v _ := h
      rcases hitem.kind hclear.2 with hj | hj | hj | ⟨hoptional, -⟩
      · exact .inl hj
      · exact .inr (.inl hj)
      · exact .inr (.inr (.inl hj))
      · rw [hclear.1] at hoptional
        cases hoptional
  | .record name fields, _, _, h, _ => by
      obtain ⟨-, members, rfl, -⟩ := h
      exact .inr (.inr (.inl ⟨members, rfl⟩))

theorem Shape.isOptional_of_encodes_null {shape : Shape} {v : shape.Value}
    (hclear : shape.isClear = true) (h : shape.Encodes v .null) : shape.isOptional = true := by
  rcases h.kind hclear with ⟨_, hj⟩ | ⟨_, hj⟩ | ⟨_, hj⟩ | ⟨hoptional, -⟩
  · cases hj
  · cases hj
  · cases hj
  · exact hoptional

/-- What is encoded as null is nothing, and a field without a member holds it. -/
theorem Shape.absent?_eq_some {shape : Shape} {v : shape.Value} (hclear : shape.isClear = true)
    (h : shape.Encodes v .null) (field : Field) : shape.absent? field = some v := by
  have hoptional := Shape.isOptional_of_encodes_null hclear h
  cases shape with
  | optional item =>
      cases v with
      | none => rfl
      | some v =>
          simp only [Shape.isClear, Bool.and_eq_true, Bool.not_eq_true'] at hclear
          have hitem := Shape.isOptional_of_encodes_null hclear.2 (v := v) h
          rw [hclear.1] at hitem
          cases hitem
  | _ => cases hoptional

/-! ## Members -/

/-- Tells that a record has a field with a value. -/
inductive Fields.Has : (fields : Fields) → fields.Values → Field → (shape : Shape) →
    shape.Value → Prop
  | first {field : Field} {shape : Shape} {rest : Fields} {v : shape.Value} {vs : rest.Values} :
      Has (.cons field shape rest) (v, vs) field shape v
  | later {field' : Field} {shape' : Shape} {v' : shape'.Value} {rest : Fields} {vs : rest.Values}
      {field : Field} {shape : Shape} {v : shape.Value} (h : Has rest vs field shape v) :
      Has (.cons field' shape' rest) (v', vs) field shape v

namespace Fields.Has

variable {fields : Fields} {vs : fields.Values} {field : Field} {shape : Shape} {v : shape.Value}

theorem name_mem (h : fields.Has vs field shape v) : field.name ∈ fields.names := by
  induction h with
  | first => exact List.mem_cons_self
  | later _ ih => exact List.mem_cons_of_mem _ ih

/-- What stands in an object with the name of a field is what the field puts there. -/
theorem exists_written (h : fields.Has vs field shape v) (hnames : fields.names.Nodup)
    {written : List (String × Json)} (hwritten : fields.Encode vs written) :
    ∃ j, shape.Encodes v j ∧
      Dictionary.find? field.name written = Dictionary.find? field.name (field.written j) := by
  induction h generalizing written with
  | @first field shape rest v vs =>
      obtain ⟨j, others, hj, hothers, rfl⟩ := hwritten
      refine ⟨j, hj, ?_⟩
      have hnone : Dictionary.find? field.name others = none := by
        refine Dictionary.find?_eq_none_of_forall fun m hm heq => ?_
        have hmem := hothers.names_sublist.subset (List.mem_map_of_mem hm)
        exact (List.nodup_cons.mp hnames).1 (heq ▸ hmem)
      rw [Dictionary.find?_append, hnone, Option.or_none]
  | @later field' shape' v' rest vs field shape v hlater ih =>
      obtain ⟨j', others, -, hothers, rfl⟩ := hwritten
      obtain ⟨hfield, hrest⟩ := List.nodup_cons.mp hnames
      obtain ⟨j, hj, hfind⟩ := ih hrest hothers
      have hne : field'.name ≠ field.name := fun heq => hfield (heq ▸ hlater.name_mem)
      have hnone : Dictionary.find? field.name (field'.written j') = none := by
        rcases field'.written_cases j' with h | ⟨-, -, h⟩
        · rw [h, Dictionary.find?_cons, if_neg hne, Dictionary.find?_nil]
        · rw [h, Dictionary.find?_nil]
      exact ⟨j, hj, by rw [Dictionary.find?_append, hnone, Option.none_or, hfind]⟩

variable {record : String} {j : Json}

/-- The same for a whole object, in whatever order its members stand. -/
theorem exists_member? (h : fields.Has vs field shape v) (hnames : fields.names.Nodup)
    (hj : (Shape.record record fields).Encodes vs j) : ∃ j', shape.Encodes v j' ∧
      j.member? field.name = Dictionary.find? field.name (field.written j') := by
  obtain ⟨written, members, rfl, hwritten, hperm⟩ := hj
  obtain ⟨j', hj', hfind⟩ := h.exists_written hnames hwritten
  exact ⟨j', hj', by
    rw [Json.member?, Dictionary.find?_perm (hwritten.nodup hnames) hperm, hfind]⟩

/-- A field that is always written has a member. -/
theorem member?_plain {name : String} (h : fields.Has vs (.plain name) shape v)
    (hnames : fields.names.Nodup) (hj : (Shape.record record fields).Encodes vs j) :
    ∃ j', shape.Encodes v j' ∧ j.member? name = some j' := by
  obtain ⟨j', hj', hmember⟩ := h.exists_member? hnames hj
  refine ⟨j', hj', hmember.trans ?_⟩
  rcases (Field.plain name).written_cases j' with hwritten | ⟨homitted, -⟩
  · rw [hwritten]
    exact if_pos rfl
  · cases homitted

/-- A text that may be absent has a member if it is there, and none if not. -/
theorem member?_optional {name : String} {text : Option String}
    (h : fields.Has vs (.optional name) (.optional .text) text) (hnames : fields.names.Nodup)
    (hj : (Shape.record record fields).Encodes vs j) : j.member? name = text.map .string := by
  obtain ⟨j', hj', hmember⟩ := h.exists_member? hnames hj
  refine hmember.trans ?_
  cases text with
  | none =>
      have hnull : j' = .null := hj'
      rw [hnull]
      rfl
  | some s =>
      have hstring : j' = .string s := hj'
      rw [hstring]
      exact if_pos rfl

end Fields.Has

end WalletCredentials

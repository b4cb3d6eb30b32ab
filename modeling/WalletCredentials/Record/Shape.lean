import WalletCredentials.Did
import WalletCredentials.Json.Basic
import WalletCredentials.Timestamp.Basic

/-!
# Shapes of records

A shape describes the JSON of a record: its fields in order, and what each of them
holds. The values of a shape are tuples, so that a record is read and written along
its shape and named by its own type.
-/

namespace WalletCredentials

/-- A field of a record. -/
structure Field where
  name : String
  /-- Tells whether the field may be absent, at the end of a list of fields too. -/
  defaulted : Bool
  /-- Tells whether the field is left out where it holds nothing. -/
  omitted : Bool
  deriving DecidableEq, Repr

/-- A field that is always written. -/
def Field.plain (name : String) : Field := ⟨name, false, false⟩

/-- A field that is absent when it holds nothing. -/
def Field.optional (name : String) : Field := ⟨name, true, true⟩

mutual

/-- The JSON of a value. -/
inductive Shape
  /-- Any string. -/
  | text
  /-- A string that is an identifier. -/
  | did
  /-- A string that is a time. -/
  | timestamp
  /-- Any value. -/
  | any
  /-- One of some names. -/
  | choice (variants : List String)
  /-- A list of values of one shape. -/
  | list (item : Shape)
  /-- A value of a shape, or nothing. -/
  | optional (item : Shape)
  /-- A record. -/
  | record (name : String) (fields : Fields)

/-- The fields of a record, in order. -/
inductive Fields
  | nil
  | cons (field : Field) (shape : Shape) (rest : Fields)

end

mutual

/-- The values of a shape. -/
def Shape.Value : Shape → Type
  | .text => String
  | .did => Did
  | .timestamp => Timestamp
  | .any => Json
  | .choice variants => Fin variants.length
  | .list item => List item.Value
  | .optional item => Option item.Value
  | .record _ fields => fields.Values

/-- The values of the fields of a record. -/
def Fields.Values : Fields → Type
  | .nil => Unit
  | .cons _ shape rest => shape.Value × rest.Values

end

/-- The values of those fields of a record that have been read. -/
def Fields.Slots : Fields → Type
  | .nil => Unit
  | .cons _ shape rest => Option shape.Value × rest.Slots

/-- No field has been read. -/
def Fields.noSlots : (fields : Fields) → fields.Slots
  | .nil => ()
  | .cons _ _ rest => (none, rest.noSlots)

/-- The number of fields. -/
def Fields.length : Fields → Nat
  | .nil => 0
  | .cons _ _ rest => rest.length + 1

/-- What a field holds that is absent: an empty list, or nothing. -/
def Shape.blank? : (shape : Shape) → Option shape.Value
  | .list _ => some []
  | .optional _ => some none
  | _ => none

/-- What an absent member of an object holds, if it may be absent. -/
def Shape.absent? (field : Field) : (shape : Shape) → Option shape.Value
  | .optional _ => some none
  | shape => if field.defaulted then shape.blank? else none

mutual

/-- The JSON of a value of a shape. -/
def Shape.toJson : (shape : Shape) → shape.Value → Json
  | .text, s => .string s
  | .did, d => .string d.text
  | .timestamp, t => .string t.text
  | .any, v => v
  | .choice variants, i => .string (variants.get i)
  | .list item, vs => .array (vs.map item.toJson)
  | .optional _, none => .null
  | .optional item, some v => item.toJson v
  | .record _ fields, vs => Json.ofMembers (fields.members vs)

/-- The members of a record, in the order of its fields. -/
def Fields.members : (fields : Fields) → fields.Values → List (String × Json)
  | .nil, _ => []
  | .cons field shape rest, (v, vs) =>
      match shape.toJson v, field.omitted with
      | .null, true => rest.members vs
      | j, _ => (field.name, j) :: rest.members vs

end

end WalletCredentials

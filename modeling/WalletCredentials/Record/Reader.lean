import WalletCredentials.Json.Skip
import WalletCredentials.Record.Fault
import WalletCredentials.Record.Shape
import WalletCredentials.Timestamp.Reader

/-!
# Reading records

A record is read along its shape in the order of the text, and the first fault in
that order is reported: a field of a wrong kind before the end of a text that breaks
off later. Fields that are missing are noticed where the object ends, in the order of
the record. A record may also be written as the list of its fields, and a name to
choose as an object with that name and nothing in it.
-/

namespace WalletCredentials

/-- The fault of a text that is no JSON. -/
def malformed {α : Type} : Except ReadFault α := .error .malformed

/-- The value of an optional result, whose absence means that the text is no JSON. -/
def orMalformed {α : Type} : Option α → Except ReadFault α
  | some a => .ok a
  | none => malformed

/-- A fault in the data of a record. -/
def dataFault {α : Type} (fault : DataFault) : Except ReadFault α := .error (.data fault)

/-- What stands at the start of a text without blanks in front. -/
def found? (cs : List Char) : Option Found :=
  match cs with
  | '[' :: _ => some .sequence
  | '{' :: _ => some .map
  | cs =>
      match Json.readScalar cs with
      | some (.null, _) => some .null
      | some (.bool b, _) => some (.bool b)
      | some (.number (.whole n), _) => some (.whole n)
      | some (.number (.real x), _) => some (.real x)
      | some (.string s, _) => some (.string s)
      | _ => none

/-- The fault of a text that starts with something else than what is expected. -/
def mismatch {α : Type} (expected : String) (cs : List Char) : Except ReadFault α :=
  match found? cs with
  | some found => dataFault (.wrongType found expected)
  | none => malformed

/-- Reads a string. -/
def readText (cs : List Char) : Except ReadFault (String × List Char) :=
  match Json.skipBlanks cs with
  | '"' :: rest => do
      let (s, rest) ← orMalformed (Json.readString .plain rest)
      return (String.ofList s, rest)
  | cs => mismatch "a string" cs

/-- Reads a string that has to be the text of something. -/
def readChecked {α : Type} (check : String → Except InputError α) (cs : List Char) :
    Except ReadFault (α × List Char) := do
  let (s, rest) ← readText cs
  match check s with
  | .ok a => return (a, rest)
  | .error e => dataFault (.unfit e)

/-- The place of a name among those to choose from. -/
def variantIndex (variants : List String) (name : String) :
    Except ReadFault (Fin variants.length) :=
  match variants.finIdxOf? name with
  | some i => .ok i
  | none => dataFault (.unknownVariant name variants)

/-- Reads the value that stands for nothing, where only that may stand. -/
def readUnit (cs : List Char) : Except ReadFault (List Char) :=
  match Json.skipBlanks cs with
  | 'n' :: 'u' :: 'l' :: 'l' :: rest => .ok rest
  | cs => mismatch "unit" cs

/-- Reads a name to choose. -/
def readChoice (variants : List String) (depth : Nat) (cs : List Char) :
    Except ReadFault (Fin variants.length × List Char) :=
  match Json.skipBlanks cs, depth with
  | '"' :: rest, _ => do
      let (s, rest) ← orMalformed (Json.readString .plain rest)
      return (← variantIndex variants (String.ofList s), rest)
  | '{' :: rest, _ + 1 => do
      let rest ← orMalformed (Json.readMark '"' rest)
      let (s, rest) ← orMalformed (Json.readString .plain rest)
      let i ← variantIndex variants (String.ofList s)
      let rest ← orMalformed (Json.readMark ':' rest)
      let rest ← readUnit rest
      let rest ← orMalformed (Json.readMark '}' rest)
      return (i, rest)
  | _, _ => malformed

/-- Tells whether the list whose items have been read up to here goes on, and where its
next item starts. `first` tells that no item has been read. -/
def nextItem (first : Bool) (cs : List Char) : Except ReadFault (Option (List Char)) :=
  match Json.skipBlanks cs with
  | [] => malformed
  | ']' :: _ => .ok none
  | cs =>
      if first then .ok (some cs)
      else match cs with
        | ',' :: rest =>
            match Json.skipBlanks rest with
            | [] => malformed
            | ']' :: _ => malformed
            | rest => .ok (some rest)
        | _ => malformed

/-- Reads the items of a list and its bracket. -/
def readList {α : Type} (item : List Char → Except ReadFault (α × List Char)) :
    (fuel : Nat) → (first : Bool) → List Char → Except ReadFault (List α × List Char)
  | 0, _, _ => malformed
  | fuel + 1, first, cs => do
      match ← nextItem first cs with
      | none => return ([], ← orMalformed (Json.readMark ']' cs))
      | some cs =>
          let (a, rest) ← item cs
          let (as, rest) ← readList item fuel false rest
          return (a :: as, rest)

/-- Tells whether the object whose members have been read up to here goes on, and where
the name of its next member starts, after the quote. -/
def nextName (first : Bool) (cs : List Char) : Except ReadFault (Option (List Char)) :=
  match Json.skipBlanks cs with
  | '}' :: _ => .ok none
  | '"' :: rest => if first then .ok (some rest) else malformed
  | ',' :: rest => if first then malformed else (orMalformed (Json.readMark '"' rest)).map some
  | _ => malformed

/-- Reads the members of an object and its brace. Each member changes the state as its
name says, or is passed over. -/
def readObject {σ : Type}
    (member : String → σ → List Char → Option (Except ReadFault (σ × List Char))) :
    (fuel : Nat) → (first : Bool) → σ → List Char → Except ReadFault (σ × List Char)
  | 0, _, _, _ => malformed
  | fuel + 1, first, state, cs => do
      match ← nextName first cs with
      | none => return (state, ← orMalformed (Json.readMark '}' cs))
      | some cs =>
          let (name, rest) ← orMalformed (Json.readString .plain cs)
          match member (String.ofList name) state rest with
          | some step =>
              let (state, rest) ← step
              readObject member fuel false state rest
          | none =>
              let rest ← orMalformed (Json.readMark ':' rest)
              let rest ← orMalformed (Json.skipValue fuel rest)
              readObject member fuel false state rest

/-- The fields of an object whose members have all been read. -/
def Fields.complete : (fields : Fields) → fields.Slots → Except ReadFault fields.Values
  | .nil, _ => .ok ()
  | .cons field shape rest, (slot, slots) =>
      match slot <|> shape.absent? field with
      | some v => do return (v, ← rest.complete slots)
      | none => dataFault (.missingField field.name)

mutual

/-- Reads a value of a shape with at most `depth` containers inside one another. -/
def Shape.read : (shape : Shape) → (fuel depth : Nat) → List Char →
    Except ReadFault (shape.Value × List Char)
  | .text, _, _, cs => readText cs
  | .did, _, _, cs => readChecked Did.read cs
  | .timestamp, _, _, cs => readChecked Timestamp.read cs
  | .any, fuel, depth, cs => orMalformed (Json.readValue fuel depth cs)
  | .choice variants, _, depth, cs => readChoice variants depth cs
  | .list item, fuel, depth, cs =>
      match Json.skipBlanks cs, depth with
      | '[' :: rest, depth + 1 => readList (item.read fuel depth) fuel true rest
      | '[' :: _, 0 => malformed
      | cs, _ => mismatch "a sequence" cs
  | .optional item, fuel, depth, cs =>
      match Json.skipBlanks cs with
      | 'n' :: rest =>
          match rest with
          | 'u' :: 'l' :: 'l' :: rest => .ok (none, rest)
          | _ => malformed
      | cs => do
          let (v, rest) ← item.read fuel depth cs
          return (some v, rest)
  | .record name fields, fuel, depth, cs =>
      match Json.skipBlanks cs, depth with
      | '{' :: rest, depth + 1 => do
          let (slots, rest) ←
            readObject (fun name slots cs => fields.readMember fuel depth name slots cs)
              fuel true fields.noSlots rest
          return (← fields.complete slots, rest)
      | '[' :: rest, depth + 1 => do
          let (values, rest) ← fields.readItems name fields.length fuel depth 0 rest
          return (values, ← orMalformed (Json.readMark ']' rest))
      | '{' :: _, 0 => malformed
      | '[' :: _, 0 => malformed
      | cs, _ => mismatch ("struct " ++ name) cs

/-- Reads the member with a given name, if it is a field, into the field's slot. -/
def Fields.readMember : (fields : Fields) → (fuel depth : Nat) → String → fields.Slots →
    List Char → Option (Except ReadFault (fields.Slots × List Char))
  | .nil, _, _, _, _, _ => none
  | .cons field shape rest, fuel, depth, name, (slot, slots), cs =>
      if field.name = name then
        some do
          if slot.isSome then dataFault (.duplicateField name)
          let cs ← orMalformed (Json.readMark ':' cs)
          let (v, cs) ← shape.read fuel depth cs
          return ((some v, slots), cs)
      else
        (rest.readMember fuel depth name slots cs).map fun step => do
          let (slots, cs) ← step
          return ((slot, slots), cs)

/-- Reads fields as the items of a list, of which `index` have been read. -/
def Fields.readItems : (fields : Fields) → (record : String) → (total fuel depth index : Nat) →
    List Char → Except ReadFault (fields.Values × List Char)
  | .nil, _, _, _, _, _, cs => .ok ((), cs)
  | .cons field shape rest, record, total, fuel, depth, index, cs => do
      match ← nextItem (index = 0) cs with
      | some item =>
          let (v, cs) ← shape.read fuel depth item
          let (vs, cs) ← rest.readItems record total fuel depth (index + 1) cs
          return ((v, vs), cs)
      | none =>
          match if field.defaulted then shape.blank? else none with
          | some v =>
              let (vs, cs) ← rest.readItems record total fuel depth index cs
              return ((v, vs), cs)
          | none => dataFault (.wrongLength index record total)

end

/-- Reads a text that is one value of a shape. -/
def Shape.readAll (shape : Shape) (text : String) : Except ReadFault shape.Value := do
  let cs := text.toList
  let (v, rest) ← shape.read (Json.fuelFor cs) Json.maxDepth cs
  if (Json.skipBlanks rest).isEmpty then return v else malformed

/-- A type whose values are written as those of a shape. -/
class Record (α : Type) where
  shape : Shape
  toValue : α → shape.Value
  ofValue : shape.Value → α

namespace Record

variable {α : Type} [Record α]

/-- The JSON of a record. -/
def toJson (a : α) : Json := (shape α).toJson (toValue a)

/-- Reads the text of a record. -/
def read (text : String) : Except ReadFault α :=
  ((shape α).readAll text).map ofValue

end Record

end WalletCredentials

import WalletCredentials.Dictionary
import WalletCredentials.Number.Binary64

/-!
# JSON values

Whole numbers keep their digits; all other numbers are doubles. The members of an
object are a dictionary.
-/

namespace WalletCredentials

/-- A number of a document. -/
inductive Json.Number
  | whole (n : Int)
  | real (x : Binary64)
  deriving DecidableEq

/-- A JSON value. -/
inductive Json
  | null
  | bool (b : Bool)
  | number (n : Json.Number)
  | string (s : String)
  | array (items : List Json)
  | object (members : List (String × Json))

namespace Json

/-- The object with the given members; of two members of one name the later counts. -/
def ofMembers (members : List (String × Json)) : Json :=
  .object (Dictionary.ofList members)

/-- The array of strings. -/
def strings (texts : List String) : Json :=
  .array (texts.map .string)

/-- The members of an object. -/
def members? : Json → Option (List (String × Json))
  | .object members => some members
  | _ => none

/-- The text of a string. -/
def string? : Json → Option String
  | .string s => some s
  | _ => none

/-- The member of an object with the given name. -/
def member? (name : String) : Json → Option Json
  | .object members => Dictionary.find? name members
  | _ => none

/-- The text of the member with the given name, if it is a string. -/
def text? (name : String) (value : Json) : Option String :=
  (value.member? name).bind string?

end Json

end WalletCredentials

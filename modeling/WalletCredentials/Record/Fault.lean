import WalletCredentials.InputError
import WalletCredentials.Number.Notation
import WalletCredentials.Text.Quoted

/-!
# Texts that are no records

A text may fail to be JSON, or its JSON may not be that of the record.
-/

namespace WalletCredentials

/-- What a text holds in place of what a record needs. -/
inductive Found
  | null
  | bool (b : Bool)
  | whole (n : Int)
  | real (x : Binary64)
  | string (s : String)
  | sequence
  | map
  deriving DecidableEq

/-- The wording of what a text holds. -/
def Found.message : Found → String
  | .null => "null"
  | .bool true => "boolean `true`"
  | .bool false => "boolean `false`"
  | .whole n => "integer `" ++ Text.ofInt n ++ "`"
  | .real x => "floating point `" ++ String.ofList (x.chars .plain) ++ "`"
  | .string s => "string " ++ Text.quoted s
  | .sequence => "sequence"
  | .map => "map"

/-- Why the JSON of a text is not that of a record. -/
inductive DataFault
  /-- A value of another kind. -/
  | wrongType (found : Found) (expected : String)
  /-- A member that the record needs is absent. -/
  | missingField (name : String)
  /-- A member stands twice. -/
  | duplicateField (name : String)
  /-- A name that is none of those to choose from. -/
  | unknownVariant (name : String) (variants : List String)
  /-- A list that is too short for the fields of a record. -/
  | wrongLength (length : Nat) (record : String) (fields : Nat)
  /-- A text that is no identifier or no time. -/
  | unfit (error : InputError)
  deriving DecidableEq

/-- The names to choose from, as they are listed in a message. -/
def variantList : List String → String
  | [] => "there are no variants"
  | [a] => "expected `" ++ a ++ "`"
  | [a, b] => "expected `" ++ a ++ "` or `" ++ b ++ "`"
  | names => "expected one of " ++ ", ".intercalate (names.map fun n => "`" ++ n ++ "`")

/-- The wording of a fault in the data of a record. -/
def DataFault.message : DataFault → String
  | .wrongType found expected => "invalid type: " ++ found.message ++ ", expected " ++ expected
  | .missingField name => "missing field `" ++ name ++ "`"
  | .duplicateField name => "duplicate field `" ++ name ++ "`"
  | .unknownVariant name variants => "unknown variant `" ++ name ++ "`, " ++ variantList variants
  | .wrongLength length record fields =>
      "invalid length " ++ toString length ++ ", expected struct " ++ record ++ " with " ++
        toString fields ++ (if fields = 1 then " element" else " elements")
  | .unfit error => error.message

/-- Why a text is no record. -/
inductive ReadFault
  /-- The text is no JSON. -/
  | malformed
  /-- The JSON is not that of the record. -/
  | data (fault : DataFault)
  deriving DecidableEq

/-- The wording of a fault. What is wrong with a text that is no JSON is not said. -/
def ReadFault.message : ReadFault → String
  | .malformed => "<json>"
  | .data fault => fault.message

end WalletCredentials

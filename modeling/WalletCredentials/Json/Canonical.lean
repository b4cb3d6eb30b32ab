import WalletCredentials.Encoding.Utf8
import WalletCredentials.Json.Printer

/-!
# Canonical JSON

The form of a document that is signed. It has no blanks, and the members of each
object are ordered by their names as they are written, quotes and escapes included.
So a name comes after the longer ones that go on with a character below the quote,
and a name with an escape is ordered by its backslash.
-/

namespace WalletCredentials.Json

/-- Puts a member in its place among ordered ones, after those of its name. -/
def insertByQuote (m : String × Json) : List (String × Json) → List (String × Json)
  | [] => [m]
  | m' :: rest =>
      if quote m.1 < quote m'.1 then m :: m' :: rest else m' :: insertByQuote m rest

/-- Orders members by their names as they are written. -/
def sortByQuote (members : List (String × Json)) : List (String × Json) :=
  members.foldr insertByQuote []

mutual

/-- The value with the members of every object in canonical order. -/
def ordered : Json → Json
  | .array items => .array (orderedItems items)
  | .object members => .object (sortByQuote (orderedMembers members))
  | v => v

/-- Values with the members of their objects in canonical order. -/
def orderedItems : List Json → List Json
  | [] => []
  | v :: rest => ordered v :: orderedItems rest

/-- Members with the objects in their values in canonical order. -/
def orderedMembers : List (String × Json) → List (String × Json)
  | [] => []
  | (name, v) :: rest => (name, ordered v) :: orderedMembers rest

end

/-- The characters of the canonical form of a value. -/
def canonicalChars (value : Json) : List Char := chars .canonical value.ordered

/-- The canonical form of a value. -/
def canonicalText (value : Json) : String := String.ofList value.canonicalChars

/-- The bytes of the canonical form of a value. -/
def canonicalBytes (value : Json) : List UInt8 := Utf8.encodeChars value.canonicalChars

end WalletCredentials.Json

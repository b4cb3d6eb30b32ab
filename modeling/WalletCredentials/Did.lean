import WalletCredentials.InputError

/-!
# Decentralized identifiers

An identifier reads `did:<method>:<identifier>`: a method of lower-case letters
and digits, and an identifier that is not empty and may hold any character,
colons included. The two parts are kept apart, so that the text splits in one way.
-/

namespace WalletCredentials

/-- A character that may stand in the method of an identifier. -/
def Did.isMethodChar (c : Char) : Bool :=
  (97 ≤ c.toNat && c.toNat ≤ 122) || Text.isDigit c

/-- A decentralized identifier. -/
structure Did where
  /-- The method, such as `key`. -/
  method : String
  /-- The part after the method. -/
  identifier : String
  method_ne : method.toList ≠ []
  method_chars : method.toList.all Did.isMethodChar = true
  identifier_ne : identifier.toList ≠ []
  deriving DecidableEq

namespace Did

/-- The text of an identifier. -/
def text (did : Did) : String :=
  "did:" ++ did.method ++ ":" ++ did.identifier

instance : ToString Did := ⟨text⟩

/-- The identifier of a method and what follows it, if both are admissible. -/
def ofParts? (method identifier : String) : Option Did :=
  if h : method.toList ≠ [] ∧ method.toList.all isMethodChar = true ∧ identifier.toList ≠ [] then
    some ⟨method, identifier, h.1, h.2.1, h.2.2⟩
  else none

/-- The characters before the first colon and those after it. -/
def splitColon : List Char → Option (List Char × List Char)
  | [] => none
  | c :: rest =>
      if c = ':' then some ([], rest)
      else (splitColon rest).map fun (a, b) => (c :: a, b)

/-- Reads an identifier. -/
def read? (text : String) : Option Did :=
  match text.toList with
  | 'd' :: 'i' :: 'd' :: ':' :: rest => do
      let (method, identifier) ← splitColon rest
      ofParts? (String.ofList method) (String.ofList identifier)
  | _ => none

/-- Reads an identifier, or says which text is none. -/
def read (text : String) : Except InputError Did :=
  match read? text with
  | some did => .ok did
  | none => .error (.invalidDid text)

/-- The longest end of a list of characters that holds no colon. -/
def afterLastColon (cs : List Char) : List Char :=
  (cs.reverse.takeWhile (· ≠ ':')).reverse

/-- The longest end of the identifier that holds no colon. -/
def fragment (did : Did) : String :=
  String.ofList (afterLastColon did.text.toList)

/-- The address of the identifier's verification method. -/
def verificationMethod (did : Did) : String :=
  did.text ++ "#" ++ did.fragment

theorem splitColon_eq_some {cs a b : List Char} :
    splitColon cs = some (a, b) ↔ cs = a ++ ':' :: b ∧ ':' ∉ a := by
  induction cs generalizing a with
  | nil => simp [splitColon]
  | cons c rest ih =>
      by_cases hc : c = ':'
      · subst hc
        cases a with
        | nil => simp [splitColon, eq_comm]
        | cons d a =>
            simp only [splitColon, if_pos, Option.some.injEq, Prod.mk.injEq, List.cons_append,
              List.cons.injEq, List.mem_cons, not_or]
            constructor
            · rintro ⟨h, _⟩
              cases h
            · rintro ⟨⟨h, _⟩, h', _⟩
              exact absurd h h'
      · cases a with
        | nil => simp [splitColon, hc]
        | cons d a =>
            simp only [splitColon, if_neg hc, Option.map_eq_some_iff, Prod.exists, Prod.mk.injEq,
              List.cons.injEq, List.cons_append, List.mem_cons, not_or]
            constructor
            · rintro ⟨a', b', h, ⟨rfl, rfl⟩, rfl⟩
              have := ih.1 h
              exact ⟨⟨rfl, this.1⟩, fun h => hc h.symm, this.2⟩
            · rintro ⟨⟨rfl, h⟩, _, ha⟩
              exact ⟨a, b, ih.2 ⟨h, ha⟩, ⟨rfl, rfl⟩, rfl⟩

end Did

end WalletCredentials

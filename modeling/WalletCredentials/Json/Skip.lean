import WalletCredentials.Json.Reader

/-!
# Skipping JSON values

Members that a record does not know are passed over. Only their grammar counts: they
may lie inside one another to any depth, their numbers may be too large, and their
escapes may be halves of pairs.
-/

namespace WalletCredentials.Json

/-- A position inside a string that is skipped. -/
inductive SkipState
  /-- Between characters. -/
  | plain
  /-- After a backslash. -/
  | escape
  /-- Inside a four-digit escape, with the digits left after the next. -/
  | digits (left : Nat)

/-- Passes over the characters of a string and its closing quote. -/
def skipString : SkipState → List Char → Option (List Char)
  | _, [] => none
  | .plain, c :: rest =>
      if c = '"' then some rest
      else if c = '\\' then skipString .escape rest
      else if c.toNat < 32 then none
      else skipString .plain rest
  | .escape, c :: rest =>
      if c = 'u' then skipString (.digits 3) rest
      else if (escaped? c).isSome then skipString .plain rest
      else none
  | .digits left, c :: rest =>
      if (Hex.digitValue? c).isNone then none
      else match left with
        | 0 => skipString .plain rest
        | left + 1 => skipString (.digits left) rest

/-- Passes over a value that is neither an array nor an object. -/
def skipScalar : List Char → Option (List Char)
  | 'n' :: 'u' :: 'l' :: 'l' :: rest => some rest
  | 't' :: 'r' :: 'u' :: 'e' :: rest => some rest
  | 'f' :: 'a' :: 'l' :: 's' :: 'e' :: rest => some rest
  | '"' :: rest => skipString .plain rest
  | cs => (readNumeral cs).map (·.2)

mutual

/-- Passes over a value. -/
def skipValue : (fuel : Nat) → List Char → Option (List Char)
  | 0, _ => none
  | fuel + 1, cs =>
      match skipBlanks cs with
      | '[' :: rest =>
          match readMark ']' rest with
          | some rest => some rest
          | none => skipItems fuel rest
      | '{' :: rest =>
          match readMark '}' rest with
          | some rest => some rest
          | none => skipMembers fuel rest
      | cs => skipScalar cs

/-- Passes over the items of an array and its bracket. -/
def skipItems : (fuel : Nat) → List Char → Option (List Char)
  | 0, _ => none
  | fuel + 1, cs => do
      let rest ← skipValue fuel cs
      match skipBlanks rest with
      | ']' :: rest => some rest
      | ',' :: rest => skipItems fuel rest
      | _ => none

/-- Passes over the members of an object and its brace. -/
def skipMembers : (fuel : Nat) → List Char → Option (List Char)
  | 0, _ => none
  | fuel + 1, cs => do
      let rest ← readMark '"' cs
      let rest ← skipString .plain rest
      let rest ← readMark ':' rest
      let rest ← skipValue fuel rest
      match skipBlanks rest with
      | '}' :: rest => some rest
      | ',' :: rest => skipMembers fuel rest
      | _ => none

end

end WalletCredentials.Json

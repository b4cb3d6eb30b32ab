/-!
# UTF-8

The bytes of a text, and the text of bytes. Bytes that are no UTF-8 are read as
replacement characters, one for each longest run of bytes that starts a
character and breaks off.
-/

namespace WalletCredentials.Utf8

/-- The UTF-8 bytes of characters. -/
def encodeChars (chars : List Char) : List UInt8 :=
  chars.flatMap String.utf8EncodeChar

/-- The UTF-8 bytes of a text. -/
def encode (text : String) : List UInt8 :=
  encodeChars text.toList

/-- The number of UTF-8 bytes of characters. -/
def size (chars : List Char) : Nat :=
  (encodeChars chars).length

/-- The character that stands for bytes that are no UTF-8. -/
def replacement : Char := Char.ofNat 0xFFFD

/-- The bounds of the second byte after a lead byte. The shorter ranges leave out
overlong forms, surrogates and values past the last code point. -/
def secondBounds (lead : Nat) : Nat × Nat :=
  if lead = 0xE0 then (0xA0, 0xBF)
  else if lead = 0xED then (0x80, 0x9F)
  else if lead = 0xF0 then (0x90, 0xBF)
  else if lead = 0xF4 then (0x80, 0x8F)
  else (0x80, 0xBF)

/-- The code point whose first bits are known and whose `more` continuation bytes
follow, the first of them within bounds of its own, and the bytes after it. -/
def continued : (more : Nat) → (bounds : Nat × Nat) → Nat → List UInt8 → Option Nat × List UInt8
  | 0, _, value, rest => (some value, rest)
  | _ + 1, _, _, [] => (none, [])
  | more + 1, (low, high), value, b :: rest =>
      if low ≤ b.toNat ∧ b.toNat ≤ high then
        continued more (0x80, 0xBF) (64 * value + (b.toNat - 0x80)) rest
      else (none, b :: rest)

/-- The code point that a lead byte starts, or nothing where the bytes start none,
and the bytes after it. -/
def codePoint (lead : UInt8) (rest : List UInt8) : Option Nat × List UInt8 :=
  let n := lead.toNat
  if n < 0x80 then (some n, rest)
  else if n < 0xC2 then (none, rest)
  else if n < 0xE0 then continued 1 (secondBounds n) (n - 0xC0) rest
  else if n < 0xF0 then continued 2 (secondBounds n) (n - 0xE0) rest
  else if n < 0xF5 then continued 3 (secondBounds n) (n - 0xF0) rest
  else (none, rest)

theorem length_continued_le (more : Nat) (bounds : Nat × Nat) (value : Nat) (rest : List UInt8) :
    (continued more bounds value rest).2.length ≤ rest.length := by
  fun_induction continued more bounds value rest with
  | case1 => simp
  | case2 => simp
  | case3 _ _ _ _ _ _ _ ih => simp; omega
  | case4 => simp

theorem length_codePoint_le (lead : UInt8) (rest : List UInt8) :
    (codePoint lead rest).2.length ≤ rest.length := by
  unfold codePoint
  dsimp only
  repeat' split
  all_goals first | exact Nat.le_refl _ | exact length_continued_le ..

/-- The characters of bytes, with replacement characters where they are no UTF-8. -/
def decodeChars : List UInt8 → List Char
  | [] => []
  | lead :: rest =>
      ((codePoint lead rest).1.map Char.ofNat).getD replacement ::
        decodeChars (codePoint lead rest).2
  termination_by bytes => bytes.length
  decreasing_by exact Nat.lt_succ_of_le (length_codePoint_le lead rest)

/-- The text of bytes, with replacement characters where they are no UTF-8. -/
def decode (bytes : List UInt8) : String :=
  String.ofList (decodeChars bytes)

@[simp] theorem encodeChars_append (a b : List Char) :
    encodeChars (a ++ b) = encodeChars a ++ encodeChars b := by
  simp [encodeChars]

end WalletCredentials.Utf8

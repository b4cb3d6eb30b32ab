import Mathlib.Data.Char
import Mathlib.Data.List.Lex
import WalletCredentials.Encoding.Utf8

/-!
# Texts and their bytes

The bytes of a greater character are greater, whatever follows them. So the bytes of texts are
ordered as the texts are, character by character, and a text is told from its bytes. The bytes of
a character are also read as that character, whatever follows them, and so are those of a text.
-/

namespace WalletCredentials.Utf8

theorem cons_ofNat_lt_cons_ofNat_iff {m n : Nat} (hm : m < 256) (hn : n < 256)
    (a b : List UInt8) :
    UInt8.ofNat m :: a < UInt8.ofNat n :: b ↔ m < n ∨ m = n ∧ a < b := by
  rw [List.cons_lt_cons_iff, UInt8.lt_iff_toNat_lt, ← UInt8.toNat_inj,
    UInt8.toNat_ofNat_of_lt' hm, UInt8.toNat_ofNat_of_lt' hn]

/-- A greater character has greater bytes. -/
theorem utf8EncodeChar_append_lt {c d : Char} (h : c < d) (a b : List UInt8) :
    String.utf8EncodeChar c ++ a < String.utf8EncodeChar d ++ b := by
  have hlt : c.val.toNat < d.val.toNat := UInt32.lt_iff_toNat_lt.mp h
  have hbound : d.val.toNat < 0x110000 := by
    have hvalid := d.valid
    simp only [UInt32.isValidChar, Nat.isValidChar] at hvalid
    omega
  -- The bytes hold the digits of the code points in base 64, below a lead that tells their number.
  have h12 (k : Nat) : k / 4096 = k / 64 / 64 := (Nat.div_div_eq_div_mul k 64 64).symm
  have h18 (k : Nat) : k / 262144 = k / 64 / 64 / 64 := by
    rw [← h12, Nat.div_div_eq_div_mul]
  rw [String.utf8EncodeChar, String.utf8EncodeChar]
  generalize c.val.toNat = m at hlt
  generalize d.val.toNat = n at hlt hbound
  simp only [h12, h18]
  repeat' split
  all_goals
    simp (disch := omega) only [List.cons_append, List.nil_append, cons_ofNat_lt_cons_ofNat_iff]
  all_goals omega

/-- The bytes of texts are ordered as the texts are. -/
theorem encodeChars_lt {a b : List Char} (h : a < b) : encodeChars a < encodeChars b := by
  induction h with
  | @nil c b =>
      obtain ⟨byte, bytes, hbytes⟩ : ∃ byte bytes, String.utf8EncodeChar c = byte :: bytes :=
        List.exists_cons_of_ne_nil String.utf8EncodeChar_ne_nil
      rw [encodeChars, encodeChars, List.flatMap_nil, List.flatMap_cons, hbytes]
      exact List.nil_lt_cons ..
  | @cons c a b _ ih =>
      rw [encodeChars, encodeChars, List.flatMap_cons, List.flatMap_cons]
      exact List.append_left_lt ih
  | rel hlt => exact utf8EncodeChar_append_lt hlt ..

/-- Characters are told from their bytes. -/
theorem encodeChars_injective : Function.Injective encodeChars := by
  intro a b h
  rcases lt_trichotomy a b with hlt | heq | hgt
  · exact absurd (encodeChars_lt hlt) (h ▸ List.lt_irrefl _)
  · exact heq
  · exact absurd (encodeChars_lt hgt) (h ▸ List.lt_irrefl _)

/-- A text is told from its bytes. -/
theorem encode_injective : Function.Injective encode := fun _ _ h =>
  String.toList_inj.mp (encodeChars_injective h)

/-! ## Reading the bytes of texts -/

theorem encodeChars_cons_ascii {c : Char} (h : c.toNat < 0x80) (cs : List Char) :
    encodeChars (c :: cs) = UInt8.ofNat c.toNat :: encodeChars cs := by
  have hle : c.val.toNat ≤ 0x7F := Nat.le_of_lt_succ h
  rw [encodeChars, List.flatMap_cons, String.utf8EncodeChar, if_pos hle]
  rfl

/-- A continuation byte within the bounds adds its six bits. -/
theorem continued_cons {digit low high : Nat} (hdigit : digit < 64) (hlow : low ≤ digit + 0x80)
    (hhigh : digit + 0x80 ≤ high) (more value : Nat) (rest : List UInt8) :
    continued (more + 1) (low, high) value (UInt8.ofNat (digit + 0x80) :: rest) =
      continued more (0x80, 0xBF) (64 * value + digit) rest := by
  have hbyte : (UInt8.ofNat (digit + 0x80)).toNat = digit + 0x80 :=
    UInt8.toNat_ofNat_of_lt' (show digit + 0x80 < 256 by omega)
  rw [continued, hbyte, if_pos ⟨hlow, hhigh⟩, Nat.add_sub_cancel]

section Widths

variable {a b c d : Nat} (rest : List UInt8)

theorem codePoint_one (ha : a < 0x80) : codePoint (UInt8.ofNat a) rest = (some a, rest) := by
  rw [codePoint, UInt8.toNat_ofNat_of_lt' (show a < 256 by omega), if_pos ha]

theorem codePoint_two (ha : 2 ≤ a) (ha' : a < 32) (hb : b < 64) :
    codePoint (UInt8.ofNat (a + 0xC0)) (UInt8.ofNat (b + 0x80) :: rest) =
      (some (64 * a + b), rest) := by
  have hbounds : secondBounds (a + 0xC0) = (0x80, 0xBF) := by grind [secondBounds]
  simp only [codePoint, UInt8.toNat_ofNat_of_lt' (show a + 0xC0 < 256 by omega)]
  rw [if_neg (by omega), if_neg (by omega), if_pos (by omega), hbounds, Nat.add_sub_cancel,
    continued_cons hb (by omega) (by omega), continued]

theorem codePoint_three (ha : a < 16) (hb : b < 64) (hc : c < 64) (hlow : a = 0 → 32 ≤ b)
    (hhigh : a = 13 → b < 32) :
    codePoint (UInt8.ofNat (a + 0xE0)) (UInt8.ofNat (b + 0x80) :: UInt8.ofNat (c + 0x80) :: rest) =
      (some (64 * (64 * a + b) + c), rest) := by
  obtain ⟨low, high, hbounds, hbl, hbh⟩ : ∃ low high, secondBounds (a + 0xE0) = (low, high) ∧
      low ≤ b + 0x80 ∧ b + 0x80 ≤ high := by grind [secondBounds]
  simp only [codePoint, UInt8.toNat_ofNat_of_lt' (show a + 0xE0 < 256 by omega)]
  rw [if_neg (by omega), if_neg (by omega), if_neg (by omega), if_pos (by omega), hbounds,
    Nat.add_sub_cancel, continued_cons hb hbl hbh, continued_cons hc (by omega) (by omega),
    continued]

theorem codePoint_four (ha : a < 5) (hb : b < 64) (hc : c < 64) (hd : d < 64)
    (hlow : a = 0 → 16 ≤ b) (hhigh : a = 4 → b < 16) :
    codePoint (UInt8.ofNat (a + 0xF0)) (UInt8.ofNat (b + 0x80) :: UInt8.ofNat (c + 0x80) ::
        UInt8.ofNat (d + 0x80) :: rest) =
      (some (64 * (64 * (64 * a + b) + c) + d), rest) := by
  obtain ⟨low, high, hbounds, hbl, hbh⟩ : ∃ low high, secondBounds (a + 0xF0) = (low, high) ∧
      low ≤ b + 0x80 ∧ b + 0x80 ≤ high := by grind [secondBounds]
  simp only [codePoint, UInt8.toNat_ofNat_of_lt' (show a + 0xF0 < 256 by omega)]
  rw [if_neg (by omega), if_neg (by omega), if_neg (by omega), if_neg (by omega),
    if_pos (by omega), hbounds, Nat.add_sub_cancel, continued_cons hb hbl hbh,
    continued_cons hc (by omega) (by omega), continued_cons hd (by omega) (by omega), continued]

end Widths

/-- The bytes of a character are read as the character. -/
theorem exists_codePoint_utf8EncodeChar (c : Char) (rest : List UInt8) :
    ∃ lead more, String.utf8EncodeChar c = lead :: more ∧
      codePoint lead (more ++ rest) = (some c.toNat, rest) := by
  have hvalid := c.valid
  rw [String.utf8EncodeChar, Char.toNat]
  simp only [UInt32.isValidChar, Nat.isValidChar] at hvalid
  generalize c.val.toNat = n at hvalid ⊢
  split
  · exact ⟨_, [], rfl, codePoint_one rest (by omega)⟩
  split
  · have hn : 64 * (n / 64 % 32) + n % 64 = n := by omega
    exact ⟨_, [_], rfl,
      (codePoint_two rest (by omega) (by omega) (by omega)).trans (by rw [hn])⟩
  split
  · have hn : 64 * (64 * (n / 4096 % 16) + n / 64 % 64) + n % 64 = n := by omega
    exact ⟨_, [_, _], rfl,
      (codePoint_three rest (by omega) (by omega) (by omega) (by omega) (by omega)).trans
        (by rw [hn])⟩
  · have hn : 64 * (64 * (64 * (n / 262144 % 8) + n / 4096 % 64) + n / 64 % 64) + n % 64 = n := by
      omega
    exact ⟨_, [_, _, _], rfl,
      (codePoint_four rest (by omega) (by omega) (by omega) (by omega) (by omega)
        (by omega)).trans (by rw [hn])⟩

/-- The bytes of characters are read as the characters. -/
@[simp] theorem decodeChars_encodeChars (chars : List Char) :
    decodeChars (encodeChars chars) = chars := by
  induction chars with
  | nil => rw [encodeChars, List.flatMap_nil, decodeChars]
  | cons c chars ih =>
      obtain ⟨lead, more, hbytes, hread⟩ :=
        exists_codePoint_utf8EncodeChar c (encodeChars chars)
      calc decodeChars (encodeChars (c :: chars))
          = decodeChars (lead :: (more ++ encodeChars chars)) := by
            rw [encodeChars, List.flatMap_cons, hbytes, List.cons_append, encodeChars]
        _ = Char.ofNat c.toNat :: decodeChars (encodeChars chars) := by
            rw [decodeChars, hread]
            rfl
        _ = c :: chars := by rw [Char.ofNat_toNat, ih]

/-- The bytes of a text are read as the text. -/
@[simp] theorem decode_encode (text : String) : decode (encode text) = text := by
  rw [decode, encode, decodeChars_encodeChars, String.ofList_toList]

end WalletCredentials.Utf8

import WalletCredentials.Encoding.Form
import WalletCredentials.Proofs.Encoding.Utf8

/-!
# Forms are read back

Each byte of a name or a value is written in characters that are read as that byte, and none of
them is a mark. So the marks of a form are where its writer put them, and its pairs are read back,
behind whatever other pairs they stand.
-/

namespace WalletCredentials

/-! ## Escapes -/

namespace Percent

theorem decode_cons {byte : UInt8} (h : byte ≠ 0x25) (rest : List UInt8) :
    decode (byte :: rest) = byte :: decode rest := by
  match rest with
  | [] => rfl
  | [_] => rfl
  | _ :: _ :: _ => rw [decode, if_neg h]

theorem decode_digits {high low : Char} {h l : Nat} (hhigh : Hex.digitValue? high = some h)
    (hlow : Hex.digitValue? low = some l) (hhigh' : high.toNat < 0x80) (hlow' : low.toNat < 0x80)
    (rest : List UInt8) :
    decode (0x25 :: UInt8.ofNat high.toNat :: UInt8.ofNat low.toNat :: rest) =
      UInt8.ofNat (16 * h + l) :: decode rest := by
  have hchar {c : Char} (hc : c.toNat < 0x80) : Char.ofUInt8 (UInt8.ofNat c.toNat) = c :=
    Char.toNat_inj.mp (UInt8.toNat_ofNat_of_lt' (show c.toNat < 256 by omega))
  rw [decode, if_pos rfl, hchar hhigh', hchar hlow', hhigh, hlow]

theorem mem_escape {byte : UInt8} {c : Char} (h : c ∈ escape byte) :
    c = '%' ∨ 0x30 ≤ c.toNat ∧ c.toNat ≤ 0x39 ∨ 0x41 ≤ c.toNat ∧ c.toNat ≤ 0x46 := by
  have hdigit {n : Nat} (hn : n < 16) (hc : c = Hex.upperDigit n) :
      0x30 ≤ c.toNat ∧ c.toNat ≤ 0x39 ∨ 0x41 ≤ c.toNat ∧ c.toNat ≤ 0x46 := by
    rw [hc, Hex.toNat_upperDigit hn]
    split
    · omega
    · omega
  have hbyte : byte.toNat < 256 := byte.toNat_lt
  simp only [escape, List.mem_cons, List.not_mem_nil, or_false] at h
  rcases h with hpercent | hhigh | hlow
  · exact .inl hpercent
  · exact .inr (hdigit (by omega) hhigh)
  · exact .inr (hdigit (by omega) hlow)

/-- An escape is read as its byte. -/
theorem decode_escape (byte : UInt8) (rest : List UInt8) :
    decode (Utf8.encodeChars (escape byte) ++ rest) = byte :: decode rest := by
  have hbyte : byte.toNat < 256 := byte.toNat_lt
  have hascii (c : Char) (hc : c ∈ escape byte) : c.toNat < 0x80 := by
    rcases mem_escape hc with rfl | h
    · decide
    · omega
  simp only [escape, List.forall_mem_cons] at hascii
  obtain ⟨hpercent, hhigh, hlow, -⟩ := hascii
  rw [escape, Utf8.encodeChars_cons_ascii hpercent, Utf8.encodeChars_cons_ascii hhigh,
    Utf8.encodeChars_cons_ascii hlow]
  calc decode (0x25 :: UInt8.ofNat (Hex.upperDigit (byte.toNat / 16)).toNat ::
          UInt8.ofNat (Hex.upperDigit (byte.toNat % 16)).toNat :: rest)
      = UInt8.ofNat (16 * (byte.toNat / 16) + byte.toNat % 16) :: decode rest :=
        decode_digits (Hex.digitValue?_upperDigit (by omega))
          (Hex.digitValue?_upperDigit (by omega)) hhigh hlow rest
    _ = byte :: decode rest := by rw [Nat.div_add_mod, UInt8.ofNat_toNat]

end Percent

namespace Form

/-! ## Names and values -/

/-- A byte that stands for itself is no sign with a meaning of its own. -/
theorem bounds_of_isPlain {byte : UInt8} (h : isPlain byte = true) :
    byte.toNat < 0x80 ∧ byte.toNat ≠ 0x25 ∧ byte.toNat ≠ 0x26 ∧ byte.toNat ≠ 0x2B ∧
      byte.toNat ≠ 0x3D := by
  simp only [isPlain, Bool.or_eq_true, Bool.and_eq_true, decide_eq_true_eq] at h
  omega

theorem encodeByte_cases (byte : UInt8) :
    isPlain byte = true ∧ encodeByte byte = [Char.ofUInt8 byte] ∨
      byte = 0x20 ∧ encodeByte byte = ['+'] ∨ encodeByte byte = Percent.escape byte := by
  rw [encodeByte]
  split
  · rename_i hplain
    exact .inl ⟨hplain, rfl⟩
  split
  · rename_i hspace
    exact .inr (.inl ⟨hspace, rfl⟩)
  · exact .inr (.inr rfl)

/-- No character of a name or a value is a mark. -/
theorem ne_of_mem_encodePart {text : String} {c : Char} (h : c ∈ encodePart text) :
    c ≠ '&' ∧ c ≠ '=' := by
  obtain ⟨byte, -, hbyte⟩ := List.mem_flatMap.mp h
  suffices hc : c.toNat ≠ 0x26 ∧ c.toNat ≠ 0x3D from
    ⟨fun heq => hc.1 (congrArg Char.toNat heq), fun heq => hc.2 (congrArg Char.toNat heq)⟩
  rcases encodeByte_cases byte with ⟨hplain, heq⟩ | ⟨-, heq⟩ | heq
  · rw [heq, List.mem_singleton] at hbyte
    have hc : c.toNat = byte.toNat := congrArg Char.toNat hbyte
    have hbounds := bounds_of_isPlain hplain
    omega
  · rw [heq, List.mem_singleton] at hbyte
    subst hbyte
    decide
  · rw [heq] at hbyte
    rcases Percent.mem_escape hbyte with rfl | hdigit
    · decide
    · omega

/-- The bytes of characters, a plus sign as a space. -/
def spaced (cs : List Char) : List UInt8 :=
  Utf8.encodeChars (cs.map fun c => if c = '+' then ' ' else c)

theorem spaced_append (a b : List Char) : spaced (a ++ b) = spaced a ++ spaced b := by
  rw [spaced, List.map_append, Utf8.encodeChars_append, spaced, spaced]

theorem spaced_of_notMem {cs : List Char} (h : '+' ∉ cs) : spaced cs = Utf8.encodeChars cs := by
  rw [spaced, List.map_congr_left (g := id), List.map_id]
  intro c hc
  exact if_neg (ne_of_mem_of_not_mem hc h)

/-- The characters of a byte are read as the byte. -/
theorem decode_spaced_encodeByte (byte : UInt8) (rest : List UInt8) :
    Percent.decode (spaced (encodeByte byte) ++ rest) = byte :: Percent.decode rest := by
  rcases encodeByte_cases byte with ⟨hplain, heq⟩ | ⟨rfl, heq⟩ | heq
  · obtain ⟨hascii, hpercent, -, hplus, -⟩ := bounds_of_isPlain hplain
    have hc : (Char.ofUInt8 byte).toNat = byte.toNat := rfl
    have hne : '+' ∉ [Char.ofUInt8 byte] := by
      intro hmem
      rw [← List.mem_singleton.mp hmem] at hc
      exact hplus hc.symm
    rw [heq, spaced_of_notMem hne, Utf8.encodeChars_cons_ascii (hc ▸ hascii), hc,
      UInt8.ofNat_toNat]
    apply Percent.decode_cons
    intro h
    exact hpercent (congrArg UInt8.toNat h)
  · rw [heq]
    exact Percent.decode_cons (by decide) rest
  · have hne : '+' ∉ Percent.escape byte := by
      intro hmem
      have h := Percent.mem_escape hmem
      revert h
      decide
    rw [heq, spaced_of_notMem hne, Percent.decode_escape]

theorem decode_spaced_flatMap (bytes : List UInt8) :
    Percent.decode (spaced (bytes.flatMap encodeByte)) = bytes := by
  induction bytes with
  | nil => rfl
  | cons byte bytes ih => rw [List.flatMap_cons, spaced_append, decode_spaced_encodeByte, ih]

/-- A name or a value is read back. -/
theorem decodePart_encodePart (text : String) : decodePart (encodePart text) = text := by
  show Utf8.decode (Percent.decode (spaced (encodePart text))) = text
  rw [encodePart, decode_spaced_flatMap, Utf8.decode_encode]

/-! ## Pairs -/

theorem decodePair_encodePair (pair : String × String) : decodePair (encodePair pair) = pair := by
  have hname : '=' ∉ encodePart pair.1 := fun h => (ne_of_mem_encodePart h).2 rfl
  rw [decodePair, encodePair, Text.cut_append _ hname]
  exact Prod.ext (decodePart_encodePart pair.1) (decodePart_encodePart pair.2)

/-- The text of one pair is one piece, and the pair is read back. -/
theorem decode_encodePair (pair : String × String) :
    decode (String.ofList (encodePair pair)) = [pair] := by
  have hmark : '&' ∉ encodePair pair := by
    rw [encodePair, List.mem_append, List.mem_cons]
    rintro (hname | hequals | hvalue)
    · exact (ne_of_mem_encodePart hname).1 rfl
    · exact absurd hequals (by decide)
    · exact (ne_of_mem_encodePart hvalue).1 rfl
  have hne : (encodePair pair).isEmpty = false :=
    List.isEmpty_eq_false_iff.mpr (List.append_ne_nil_of_right_ne_nil _ (List.cons_ne_nil _ _))
  rw [decode, String.toList_ofList, Text.pieces_of_notMem hmark, List.filter_singleton, hne]
  exact congrArg (fun pair => [pair]) (decodePair_encodePair pair)

/-- The pairs of two texts with a mark between them are those of the one and then of the other. -/
theorem decode_append (a b : String) : decode (a ++ "&" ++ b) = decode a ++ decode b := by
  have hchars : (a ++ "&" ++ b).toList = a.toList ++ '&' :: b.toList := by
    rw [String.toList_append, String.toList_append, List.append_assoc]
    rfl
  rw [decode, hchars, Text.pieces_append_cons, List.filter_append, List.map_append, decode, decode]

theorem encode_cons_cons (pair other : String × String) (pairs : List (String × String)) :
    encode (pair :: other :: pairs) =
      String.ofList (encodePair pair) ++ "&" ++ encode (other :: pairs) := by
  rw [encode, List.map_cons, List.map_cons, String.intercalate_cons_cons, encode, List.map_cons]

/-- Pairs are read back from their text. -/
theorem decode_encode (pairs : List (String × String)) : decode (encode pairs) = pairs := by
  match pairs with
  | [] => rfl
  | [pair] =>
      rw [encode, List.map_singleton, String.intercalate_singleton, decode_encodePair]
  | pair :: other :: pairs =>
      rw [encode_cons_cons, decode_append, decode_encodePair, decode_encode (other :: pairs),
        List.singleton_append]

end Form

end WalletCredentials

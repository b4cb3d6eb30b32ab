import Mathlib.Tactic.Common
import WalletCredentials.Encoding.Base64Url

/-!
# Base64url, back and forth

The text of bytes is read back as the bytes, and every text that is read is the text of the
bytes that it is read as. So a list of bytes has exactly one text. A text that is that of 32 bytes
is told by its characters: by their number, their alphabet and the bits that the last has left over.
-/

namespace WalletCredentials.Base64Url

theorem digitValue?_digit {n : Nat} (h : n < 64) : digitValue? (digit n) = some n := by
  have hall : ∀ n ∈ List.range 64, digitValue? (digit n) = some n := by decide
  exact hall n (List.mem_range.mpr h)

/-- A character with a value is the digit of that value. -/
theorem digit_of_digitValue? {c : Char} {v : Nat} (h : digitValue? c = some v) :
    v < 64 ∧ digit v = c := by
  have hc : Char.ofNat c.toNat = c := Char.ofNat_toNat c
  simp only [digitValue?] at h
  split at h
  · cases h
    refine ⟨by omega, ?_⟩
    rw [digit, if_pos (by omega), Nat.add_sub_cancel' (by omega), hc]
  split at h
  · cases h
    refine ⟨by omega, ?_⟩
    rw [digit, if_neg (by omega), if_pos (by omega), Nat.add_sub_cancel' (by omega), hc]
  split at h
  · cases h
    refine ⟨by omega, ?_⟩
    rw [digit, if_neg (by omega), if_neg (by omega), if_pos (by omega), Nat.add_sub_cancel, hc]
  split at h
  · cases h
    rename_i heq
    exact ⟨by decide, heq.symm⟩
  split at h
  · cases h
    rename_i heq
    exact ⟨by decide, heq.symm⟩
  · cases h

theorem ofNat_eq_of_mod_eq {n : Nat} {b : UInt8} (h : n % 256 = b.toNat) : UInt8.ofNat n = b := by
  apply UInt8.toNat.inj
  rw [UInt8.toNat_ofNat', h]

/-- Reading the characters of bytes gives the bytes. -/
theorem ofDigits?_digits (bytes : List UInt8) : ofDigits? (digits bytes) = some bytes := by
  fun_induction digits bytes with
  | case1 => rfl
  | case2 a n =>
      have ha := a.toNat_lt
      rw [ofDigits?, digitValue?_digit (by omega), digitValue?_digit (by omega)]
      simp only [Option.bind_eq_bind, Option.bind_some]
      rw [if_pos (by omega), ofNat_eq_of_mod_eq (b := a) (by omega)]
  | case3 a b n =>
      have ha := a.toNat_lt
      have hb := b.toNat_lt
      rw [ofDigits?, digitValue?_digit (by omega), digitValue?_digit (by omega),
        digitValue?_digit (by omega)]
      simp only [Option.bind_eq_bind, Option.bind_some]
      rw [if_pos (by omega), ofNat_eq_of_mod_eq (b := a) (by omega),
        ofNat_eq_of_mod_eq (b := b) (by omega)]
  | case4 a b c rest n ih =>
      have ha := a.toNat_lt
      have hb := b.toNat_lt
      have hc := c.toNat_lt
      rw [ofDigits?, digitValue?_digit (by omega), digitValue?_digit (by omega),
        digitValue?_digit (by omega), digitValue?_digit (by omega), ih]
      simp only [Option.bind_eq_bind, Option.bind_some]
      rw [ofNat_eq_of_mod_eq (b := a) (by omega), ofNat_eq_of_mod_eq (b := b) (by omega),
        ofNat_eq_of_mod_eq (b := c) (by omega)]

/-- Characters that are read as bytes are the characters of those bytes. -/
theorem digits_of_ofDigits? {cs : List Char} {bytes : List UInt8}
    (h : ofDigits? cs = some bytes) : digits bytes = cs := by
  fun_induction ofDigits? cs generalizing bytes with
  | case1 =>
      cases h
      rfl
  | case2 => cases h
  | case3 a b =>
      simp only [Option.bind_eq_bind, Option.bind_eq_some_iff] at h
      obtain ⟨va, ha, vb, hb, h⟩ := h
      obtain ⟨hva, rfl⟩ := digit_of_digitValue? ha
      obtain ⟨hvb, rfl⟩ := digit_of_digitValue? hb
      split at h
      · cases h
        have hn : (va * 64 + vb) / 16 % 256 * 16 = va * 64 + vb := by omega
        have h1 : (va * 64 + vb) / 64 = va := by omega
        have h2 : (va * 64 + vb) % 64 = vb := by omega
        simp only [digits, UInt8.toNat_ofNat', hn, h1, h2]
      · cases h
  | case4 a b c =>
      simp only [Option.bind_eq_bind, Option.bind_eq_some_iff] at h
      obtain ⟨va, ha, vb, hb, vc, hc, h⟩ := h
      obtain ⟨hva, rfl⟩ := digit_of_digitValue? ha
      obtain ⟨hvb, rfl⟩ := digit_of_digitValue? hb
      obtain ⟨hvc, rfl⟩ := digit_of_digitValue? hc
      generalize hn : (va * 64 + vb) * 64 + vc = n at h
      split at h
      · cases h
        have hbytes : (n / 1024 % 256 * 256 + n / 4 % 256) * 4 = n := by omega
        have h1 : n / 4096 = va := by omega
        have h2 : n / 64 % 64 = vb := by omega
        have h3 : n % 64 = vc := by omega
        simp only [digits, UInt8.toNat_ofNat', hbytes, h1, h2, h3]
      · cases h
  | case5 a b c d rest ih =>
      simp only [Option.bind_eq_bind, Option.bind_eq_some_iff] at h
      obtain ⟨va, ha, vb, hb, vc, hc, vd, hd, tail, htail, h⟩ := h
      obtain ⟨hva, rfl⟩ := digit_of_digitValue? ha
      obtain ⟨hvb, rfl⟩ := digit_of_digitValue? hb
      obtain ⟨hvc, rfl⟩ := digit_of_digitValue? hc
      obtain ⟨hvd, rfl⟩ := digit_of_digitValue? hd
      cases h
      generalize hn : ((va * 64 + vb) * 64 + vc) * 64 + vd = n
      have hbytes : (n / 65536 % 256 * 256 + n / 256 % 256) * 256 + n % 256 = n := by omega
      have h1 : n / 262144 = va := by omega
      have h2 : n / 4096 % 64 = vb := by omega
      have h3 : n / 64 % 64 = vc := by omega
      have h4 : n % 64 = vd := by omega
      simp only [digits, UInt8.toNat_ofNat', hbytes, h1, h2, h3, h4, ih htail]

theorem ofDigits?_eq_some_iff {cs : List Char} {bytes : List UInt8} :
    ofDigits? cs = some bytes ↔ cs = digits bytes := by
  constructor
  · intro h
    exact (digits_of_ofDigits? h).symm
  · rintro rfl
    exact ofDigits?_digits bytes

/-- A text is read as bytes exactly if it is the text of the bytes. -/
theorem decode?_eq_some_iff {text : String} {bytes : List UInt8} :
    decode? text = some bytes ↔ text = encode bytes := by
  rw [decode?, ofDigits?_eq_some_iff, encode, ← String.toList_inj, String.toList_ofList]

/-- Reading the text of bytes gives the bytes. -/
@[simp] theorem decode?_encode (bytes : List UInt8) : decode? (encode bytes) = some bytes :=
  decode?_eq_some_iff.mpr rfl

theorem encode_injective {a b : List UInt8} (h : encode a = encode b) : a = b := by
  have hread := decode?_encode a
  rw [h, decode?_encode, Option.some.injEq] at hread
  exact hread.symm

/-! ## What the text of bytes looks like -/

theorem length_digits (bytes : List UInt8) :
    (digits bytes).length = (4 * bytes.length + 2) / 3 := by
  fun_induction digits bytes with
  | case1 => rfl
  | case2 => simp
  | case3 => simp
  | case4 a b c rest n ih =>
      simp only [List.length_cons, ih]
      omega

theorem isSome_digitValue?_digit (n : Nat) : (digitValue? (digit n)).isSome = true := by
  by_cases h : n < 64
  · rw [digitValue?_digit h, Option.isSome_some]
  · rw [digit, if_neg (by omega), if_neg (by omega), if_neg (by omega), if_neg (by omega)]
    decide

/-- The text of bytes holds characters of the alphabet only. -/
theorem isSome_digitValue?_digits (bytes : List UInt8) :
    ∀ c ∈ digits bytes, (digitValue? c).isSome = true := by
  fun_induction digits bytes with
  | case1 => simp
  | case2 a n => simp [isSome_digitValue?_digit]
  | case3 a b n => simp [isSome_digitValue?_digit]
  | case4 a b c rest n ih => simpa [isSome_digitValue?_digit] using ih

/-- Two bytes at the end leave two bits of the last character, and these are zero. -/
theorem slack_of_getLast? {bytes : List UInt8} (hlength : bytes.length % 3 = 2) {c : Char} {v : Nat}
    (h : (digits bytes).getLast? = some c) (hv : digitValue? c = some v) : v % 4 = 0 := by
  fun_induction digits bytes with
  | case1 => cases h
  | case2 a n => simp at hlength
  | case3 a b n =>
      have hlast : c = digit (n % 64) := by simpa using h.symm
      rw [hlast, digitValue?_digit (by omega), Option.some.injEq] at hv
      omega
  | case4 a b c' rest n ih =>
      obtain ⟨d, ds, hrest⟩ : ∃ d ds, digits rest = d :: ds := by
        refine List.exists_cons_of_ne_nil fun hnil => ?_
        have hzero := congrArg List.length hnil
        rw [length_digits] at hzero
        simp only [List.length_cons, List.length_nil] at hlength hzero
        omega
      rw [hrest] at h ih
      simp only [List.length_cons] at hlength
      exact ih (by omega) (by simpa using h)

/-- Characters of the alphabet are those of bytes if their number is one of bytes and the bits that
the last of them has left over are zero. -/
theorem exists_ofDigits? {cs : List Char} (hlength : cs.length % 4 = 3)
    (halphabet : ∀ c ∈ cs, (digitValue? c).isSome = true)
    (hslack : ∀ c v, cs.getLast? = some c → digitValue? c = some v → v % 4 = 0) :
    ∃ bytes, ofDigits? cs = some bytes := by
  fun_induction ofDigits? cs with
  | case1 => simp at hlength
  | case2 => simp at hlength
  | case3 => simp at hlength
  | case4 a b c =>
      simp only [List.forall_mem_cons, Option.isSome_iff_exists] at halphabet
      obtain ⟨⟨va, ha⟩, ⟨vb, hb⟩, ⟨vc, hc⟩, -⟩ := halphabet
      have hzero := hslack c vc rfl hc
      simp only [ha, hb, hc, Option.bind_eq_bind, Option.bind_some]
      exact ⟨_, if_pos (by omega)⟩
  | case5 a b c d rest ih =>
      simp only [List.forall_mem_cons, Option.isSome_iff_exists] at halphabet
      obtain ⟨⟨va, ha⟩, ⟨vb, hb⟩, ⟨vc, hc⟩, ⟨vd, hd⟩, hrest⟩ := halphabet
      obtain ⟨e, es, rfl⟩ : ∃ e es, rest = e :: es := by
        refine List.exists_cons_of_ne_nil fun hnil => ?_
        simp [hnil] at hlength
      have hlength' : (e :: es).length % 4 = 3 := by
        simp only [List.length_cons] at hlength ⊢
        omega
      obtain ⟨bytes, hbytes⟩ := ih hlength' (by simpa [Option.isSome_iff_exists] using hrest)
        (by simpa using hslack)
      simp only [ha, hb, hc, hd, hbytes, Option.bind_eq_bind, Option.bind_some]
      exact ⟨_, rfl⟩

/-- What keeps a text from being that of 32 bytes. -/
inductive IsSpoiled (text : String) : Prop
  /-- It holds a character that is no digit, such as the mark of a padding. -/
  | foreign {c : Char} (hmem : c ∈ text.toList) (hc : digitValue? c = none)
  /-- It has another length, as an empty text has. -/
  | length (h : text.toList.length ≠ 43)
  /-- A bit that its last character has left over is not zero. -/
  | slack {c : Char} {v : Nat} (hlast : text.toList.getLast? = some c)
      (hv : digitValue? c = some v) (h : v % 4 ≠ 0)

/-- A text is spoiled exactly if it is not that of 32 bytes. -/
theorem isSpoiled_iff {text : String} :
    IsSpoiled text ↔ ∀ bytes, bytes.length = 32 → text ≠ encode bytes := by
  constructor
  · rintro hspoiled bytes hbytes rfl
    have hchars : (encode bytes).toList = digits bytes := String.toList_ofList
    rcases hspoiled with ⟨hmem, hc⟩ | ⟨h⟩ | ⟨hlast, hv, h⟩
    · rw [hchars] at hmem
      simpa [hc] using isSome_digitValue?_digits bytes _ hmem
    · rw [hchars, length_digits, hbytes] at h
      exact h rfl
    · rw [hchars] at hlast
      exact h (slack_of_getLast? (by rw [hbytes]) hlast hv)
  · intro hbytes
    by_contra hsound
    have hlength : text.toList.length = 43 := by
      by_contra h
      exact hsound (.length h)
    obtain ⟨bytes, hread⟩ : ∃ bytes, ofDigits? text.toList = some bytes := by
      refine exists_ofDigits? (by rw [hlength]) (fun c hc => ?_) fun c v hlast hv => ?_
      · by_contra h
        exact hsound (.foreign hc (by simpa using h))
      · by_contra h
        exact hsound (.slack hlast hv h)
    have hdigits := ofDigits?_eq_some_iff.mp hread
    refine hbytes bytes ?_ (decode?_eq_some_iff.mp hread)
    rw [hdigits, length_digits] at hlength
    omega

theorem exists_bytes_of_not_isSpoiled {text : String} (h : ¬IsSpoiled text) :
    ∃ bytes, bytes.length = 32 ∧ text = encode bytes := by
  by_contra hnone
  exact h (isSpoiled_iff.mpr fun bytes hbytes htext => hnone ⟨bytes, hbytes, htext⟩)

end WalletCredentials.Base64Url

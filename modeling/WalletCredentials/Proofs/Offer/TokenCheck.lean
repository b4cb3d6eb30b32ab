import WalletCredentials.Proofs.Offer.TokenMessage

/-!
# What a token is refused for

What is handed in for a token can be at fault in six ways, and a check reports the first of them. A
token without a fault is accepted. Only the last way is about the secret, so that no other answer
tells anything of it: one text is accepted as the signature, the digest in lower-case digits.
-/

namespace WalletCredentials

/-! ## Lower-case digits -/

namespace Hex

/-- The digits that bytes are written with. -/
def lowerDigits : List Char := "0123456789abcdef".toList

theorem lowerDigits_eq : lowerDigits = (List.range 16).map digit := by decide

theorem digit_mem_lowerDigits {n : Nat} (h : n < 16) : digit n ∈ lowerDigits := by
  rw [lowerDigits_eq]
  exact List.mem_map_of_mem (List.mem_range.mpr h)

/-- A lower-case digit is the one of its value. -/
theorem exists_digit_eq {c : Char} (h : c ∈ lowerDigits) : ∃ n, n < 16 ∧ c = digit n := by
  rw [lowerDigits_eq] at h
  obtain ⟨n, hn, hc⟩ := List.mem_map.mp h
  exact ⟨n, List.mem_range.mp hn, hc.symm⟩

theorem mem_lowerDigits_of_mem_digits {c : Char} {bytes : List UInt8} (h : c ∈ digits bytes) :
    c ∈ lowerDigits := by
  induction bytes with
  | nil => cases h
  | cons b rest ih =>
      have hb : b.toNat < 256 := b.toNat_lt
      rcases List.mem_cons.mp h with rfl | h
      · exact digit_mem_lowerDigits (by omega)
      rcases List.mem_cons.mp h with rfl | h
      · exact digit_mem_lowerDigits (by omega)
      · exact ih h

/-- Lower-case digits are written as they are read. -/
theorem eq_digits_of_ofDigits? {cs : List Char} {bytes : List UInt8}
    (hlower : ∀ c ∈ cs, c ∈ lowerDigits) (h : ofDigits? cs = some bytes) : cs = digits bytes := by
  fun_induction ofDigits? cs generalizing bytes with
  | case1 =>
      cases h
      rfl
  | case2 => cases h
  | case3 high low rest ih =>
      obtain ⟨hhigh, hlow, hrest⟩ : high ∈ lowerDigits ∧ low ∈ lowerDigits ∧
          ∀ c ∈ rest, c ∈ lowerDigits := by simpa using hlower
      obtain ⟨a, ha, rfl⟩ := exists_digit_eq hhigh
      obtain ⟨b, hb, rfl⟩ := exists_digit_eq hlow
      simp only [digitValue?_digit ha, digitValue?_digit hb, Option.bind_eq_bind,
        Option.bind_some, Option.bind_eq_some_iff] at h
      obtain ⟨tail, htail, h⟩ := h
      cases h
      have hbyte : (UInt8.ofNat (16 * a + b)).toNat = 16 * a + b := by
        rw [UInt8.toNat_ofNat', Nat.mod_eq_of_lt (by omega)]
      rw [digits, ← ih hrest htail, hbyte]
      congr 3 <;> omega

/-- Tells that a text is bytes in lower-case digits, two for each byte. -/
structure IsLowerText (text : String) (bytes : List UInt8) : Prop where
  length_eq : text.length = 2 * bytes.length
  lower : ∀ c ∈ text.toList, c ∈ lowerDigits
  value : decode? text = some bytes

/-- Bytes have one text in lower-case digits. -/
theorem isLowerText_iff {text : String} {bytes : List UInt8} :
    IsLowerText text bytes ↔ text = encode bytes := by
  constructor
  · intro h
    rw [← String.toList_inj, eq_digits_of_ofDigits? h.lower h.value, encode, String.toList_ofList]
  · rintro rfl
    refine ⟨?_, fun c hc => ?_, decode?_encode bytes⟩
    · rw [encode, String.length_ofList, length_digits]
    · rw [encode, String.toList_ofList] at hc
      exact mem_lowerDigits_of_mem_digits hc

end Hex

namespace OfferToken

variable {secret : Secret} {id expires supplied : String} {now : Timestamp} {e : ExchangeError}

theorem message_eq (id expires : String) :
    message id expires = "?id=" ++ id ++ "&expires=" ++ expires := by
  rw [← String.toList_inj, toList_message]
  simp

/-- Tells that a text is the digest under a secret that belongs to an identifier and an end, in 64
lower-case digits. -/
def IsSignature (secret : Secret) (id expires supplied : String) : Prop :=
  supplied.length = 64 ∧ Hex.IsLowerText supplied
    (Hmac.sha256 secret.bytes (Utf8.encode ("?id=" ++ id ++ "&expires=" ++ expires)))

theorem isSignature_iff :
    IsSignature secret id expires supplied ↔ supplied = (signatureOf secret id expires).text := by
  rw [IsSignature, ← message_eq, Hex.isLowerText_iff]
  constructor
  · exact And.right
  · rintro rfl
    exact ⟨TokenSignature.length_text _, rfl⟩

/-! ## Faults -/

/-- A fault of what is handed in for a token, and its place in the order in which faults are
looked for. -/
inductive HasFault (secret : Secret) (id expires supplied : String) (now : Timestamp) :
    Nat → ExchangeError → Prop
  | noId : id = "" → HasFault secret id expires supplied now 0 (.missingField "id")
  | noSignature : supplied = "" → HasFault secret id expires supplied now 1 (.missingField "hmac")
  | noEnd : expires = "" → HasFault secret id expires supplied now 2 (.missingField "expires")
  | malformed {error : InputError} : Timestamp.read expires = .error error →
      HasFault secret id expires supplied now 3 (.malformedToken error.message)
  | passed {last : Timestamp} : Timestamp.read expires = .ok last → last < now →
      HasFault secret id expires supplied now 4 (.expired expires)
  | forged : ¬IsSignature secret id expires supplied →
      HasFault secret id expires supplied now 5 .invalidSignature

/-- Tells that a fault is the first one. -/
def IsFirstFault (secret : Secret) (id expires supplied : String) (now : Timestamp)
    (e : ExchangeError) : Prop :=
  ∃ place, HasFault secret id expires supplied now place e ∧
    ∀ place' e', HasFault secret id expires supplied now place' e' → place ≤ place'

theorem HasFault.eq_of_place_eq {place : Nat} {e' : ExchangeError}
    (h : HasFault secret id expires supplied now place e)
    (h' : HasFault secret id expires supplied now place e') : e = e' := by
  cases h with
  | malformed hread =>
      cases h' with
      | malformed hread' =>
          rw [hread] at hread'
          cases hread'
          rfl
  | _ =>
      cases h'
      rfl

/-- There is one first fault at most. -/
theorem IsFirstFault.unique {e' : ExchangeError}
    (h : IsFirstFault secret id expires supplied now e)
    (h' : IsFirstFault secret id expires supplied now e') : e = e' := by
  obtain ⟨place, hfault, hfirst⟩ := h
  obtain ⟨place', hfault', hfirst'⟩ := h'
  obtain rfl : place = place' := Nat.le_antisymm (hfirst _ _ hfault') (hfirst' _ _ hfault)
  exact hfault.eq_of_place_eq hfault'

/-- A token that is accepted has no fault. -/
theorem not_hasFault_of_check {place : Nat}
    (h : check secret id expires supplied now = .ok ()) :
    ¬HasFault secret id expires supplied now place e := by
  obtain ⟨hid, hsupplied, hexpires, last, hread, hlast, htext⟩ := check_eq_ok_iff.mp h
  intro hfault
  cases hfault with
  | noId h => exact hid h
  | noSignature h => exact hsupplied h
  | noEnd h => exact hexpires h
  | malformed hread' =>
      rw [hread] at hread'
      cases hread'
  | passed hread' hpassed =>
      rw [hread, Except.ok.injEq] at hread'
      exact absurd (hread' ▸ hpassed) (not_lt.mpr hlast)
  | forged h => exact h (isSignature_iff.mpr htext)

/-- Tells that no fault comes before a place. -/
def IsClearBefore (secret : Secret) (id expires supplied : String) (now : Timestamp)
    (place : Nat) : Prop :=
  ∀ place' e, HasFault secret id expires supplied now place' e → place ≤ place'

namespace IsClearBefore

variable {place : Nat}

theorem zero : IsClearBefore secret id expires supplied now 0 := fun _ _ _ => Nat.zero_le _

/-- Where there is no fault at a place either, none comes before the next one. -/
theorem next (h : IsClearBefore secret id expires supplied now place)
    (hnone : ∀ e, ¬HasFault secret id expires supplied now place e) :
    IsClearBefore secret id expires supplied now (place + 1) := by
  intro place' e hfault
  apply Nat.lt_of_le_of_ne (h place' e hfault)
  rintro rfl
  exact hnone e hfault

theorem isFirstFault (h : IsClearBefore secret id expires supplied now place)
    (hfault : HasFault secret id expires supplied now place e) :
    IsFirstFault secret id expires supplied now e :=
  ⟨place, hfault, h⟩

end IsClearBefore

/-- A check that refuses reports the first fault. -/
theorem isFirstFault_of_check (h : check secret id expires supplied now = .error e) :
    IsFirstFault secret id expires supplied now e := by
  rw [check] at h
  -- Where the check goes on, one more place is known to be without a fault.
  have hclear₀ : IsClearBefore secret id expires supplied now 0 := .zero
  by_cases hid : id = ""
  · rw [if_pos (by simpa using hid)] at h
    cases h
    exact hclear₀.isFirstFault (.noId hid)
  rw [if_neg (by simpa using hid)] at h
  have hclear₁ : IsClearBefore secret id expires supplied now 1 := by
    refine hclear₀.next fun e' hfault => ?_
    cases hfault with
    | noId h => exact hid h
  by_cases hsupplied : supplied = ""
  · rw [if_pos (by simpa using hsupplied)] at h
    cases h
    exact hclear₁.isFirstFault (.noSignature hsupplied)
  rw [if_neg (by simpa using hsupplied)] at h
  have hclear₂ : IsClearBefore secret id expires supplied now 2 := by
    refine hclear₁.next fun e' hfault => ?_
    cases hfault with
    | noSignature h => exact hsupplied h
  by_cases hexpires : expires = ""
  · rw [if_pos (by simpa using hexpires)] at h
    cases h
    exact hclear₂.isFirstFault (.noEnd hexpires)
  rw [if_neg (by simpa using hexpires)] at h
  have hclear₃ : IsClearBefore secret id expires supplied now 3 := by
    refine hclear₂.next fun e' hfault => ?_
    cases hfault with
    | noEnd h => exact hexpires h
  cases hread : Timestamp.read expires with
  | error error =>
      rw [hread] at h
      cases h
      exact hclear₃.isFirstFault (.malformed hread)
  | ok last =>
      rw [hread, mapError_ok, ok_bind] at h
      have hclear₄ : IsClearBefore secret id expires supplied now 4 := by
        refine hclear₃.next fun e' hfault => ?_
        cases hfault with
        | malformed hread' =>
            rw [hread] at hread'
            cases hread'
      by_cases hpassed : last < now
      · rw [if_pos (by simpa [Timestamp.isPassedAt] using hpassed)] at h
        cases h
        exact hclear₄.isFirstFault (.passed hread hpassed)
      rw [if_neg (by simpa [Timestamp.isPassedAt] using hpassed)] at h
      have hclear₅ : IsClearBefore secret id expires supplied now 5 := by
        refine hclear₄.next fun e' hfault => ?_
        cases hfault with
        | passed hread' hpassed' =>
            rw [hread, Except.ok.injEq] at hread'
            exact hpassed (hread' ▸ hpassed')
      by_cases hsigned : supplied = (signatureOf secret id expires).text
      · rw [if_neg (by simpa [isSigned] using hsigned)] at h
        cases h
      rw [if_pos (by simpa [isSigned] using hsigned)] at h
      cases h
      exact hclear₅.isFirstFault (.forged fun h => hsigned (isSignature_iff.mp h))

theorem check_eq_error_iff :
    check secret id expires supplied now = .error e ↔
      IsFirstFault secret id expires supplied now e := by
  refine ⟨isFirstFault_of_check, fun h => ?_⟩
  cases hcheck : check secret id expires supplied now with
  | ok accepted =>
      obtain ⟨place, hfault, -⟩ := h
      exact absurd hfault (not_hasFault_of_check hcheck)
  | error e' => rw [h.unique (isFirstFault_of_check hcheck)]

/-! ## Other secrets and other times -/

variable {secret' : Secret} {supplied' : String} {place : Nat} {now' : Timestamp}

/-- The faults apart from a forged signature do not depend on the secret, nor on what is handed in
as the signature as long as it is something. -/
theorem HasFault.of_secret (hsupplied : supplied' = "" ↔ supplied = "")
    (h : HasFault secret id expires supplied now place e) (he : e ≠ .invalidSignature) :
    HasFault secret' id expires supplied' now place e := by
  cases h with
  | noId h => exact .noId h
  | noSignature h => exact .noSignature (hsupplied.mpr h)
  | noEnd h => exact .noEnd h
  | malformed h => exact .malformed h
  | passed h h' => exact .passed h h'
  | forged h => exact absurd rfl he

theorem HasFault.place_le (h : HasFault secret id expires supplied now place e) : place ≤ 5 := by
  cases h <;> decide

/-- An answer other than that of a forged signature is the same under every secret. -/
theorem IsFirstFault.of_secret (hsupplied : supplied' = "" ↔ supplied = "")
    (h : IsFirstFault secret id expires supplied now e) (he : e ≠ .invalidSignature) :
    IsFirstFault secret' id expires supplied' now e := by
  obtain ⟨place, hfault, hfirst⟩ := h
  refine ⟨place, hfault.of_secret hsupplied he, fun place' e' hfault' => ?_⟩
  by_cases he' : e' = .invalidSignature
  · subst he'
    cases hfault'
    exact hfault.place_le
  · exact hfirst place' e' (hfault'.of_secret hsupplied.symm he')

/-- A token that has expired stays so. -/
theorem IsFirstFault.expired_of_le
    (h : IsFirstFault secret id expires supplied now (.expired expires)) (hle : now ≤ now') :
    IsFirstFault secret id expires supplied now' (.expired expires) := by
  obtain ⟨place, hfault, hfirst⟩ := h
  cases hfault with
  | passed hread hlast =>
      refine ⟨4, .passed hread (hlast.trans_le hle), fun place' e' hfault' => ?_⟩
      cases hfault' with
      | noId h => exact hfirst 0 _ (.noId h)
      | noSignature h => exact hfirst 1 _ (.noSignature h)
      | noEnd h => exact hfirst 2 _ (.noEnd h)
      | malformed h => exact hfirst 3 _ (.malformed h)
      | passed h h' => exact le_rfl
      | forged h => decide

/-- What a check of the three texts of a token tells, and what it does not. -/
structure IsDecided (secret : Secret) (id expires supplied : String) (now : Timestamp) : Prop where
  accepted_iff : check secret id expires supplied now = .ok () ↔
    id ≠ "" ∧ expires ≠ "" ∧ supplied ≠ "" ∧
      (∃ last, Timestamp.read expires = .ok last ∧ now ≤ last) ∧
      IsSignature secret id expires supplied
  refused_iff : ∀ e, check secret id expires supplied now = .error e ↔
    IsFirstFault secret id expires supplied now e
  /-- No other text is accepted as the signature. -/
  one_signature : ∀ supplied', check secret id expires supplied now = .ok () →
    check secret id expires supplied' now = .ok () → supplied' = supplied
  /-- Only the answer to a forged signature depends on the secret. -/
  secret_hidden : ∀ e, check secret id expires supplied now = .error e → e ≠ .invalidSignature →
    ∀ secret' supplied', (supplied' = "" ↔ supplied = "") →
      check secret' id expires supplied' now = .error e
  accepted_before : check secret id expires supplied now = .ok () → ∀ earlier, earlier ≤ now →
    check secret id expires supplied earlier = .ok ()
  expired_after : check secret id expires supplied now = .error (.expired expires) →
    ∀ later, now ≤ later → check secret id expires supplied later = .error (.expired expires)

/-- A check accepts the one signature of a complete token that has not ended, and reports the first
fault of any other. -/
theorem isDecided_check (secret : Secret) (id expires supplied : String) (now : Timestamp) :
    IsDecided secret id expires supplied now where
  accepted_iff := by
    rw [check_eq_ok_iff, isSignature_iff]
    constructor
    · rintro ⟨hid, hsupplied, hexpires, last, hread, hlast, htext⟩
      exact ⟨hid, hexpires, hsupplied, ⟨last, hread, hlast⟩, htext⟩
    · rintro ⟨hid, hexpires, hsupplied, ⟨last, hread, hlast⟩, htext⟩
      exact ⟨hid, hsupplied, hexpires, last, hread, hlast, htext⟩
  refused_iff e := check_eq_error_iff
  one_signature supplied' h h' := by
    obtain ⟨-, -, -, -, -, -, htext⟩ := check_eq_ok_iff.mp h
    obtain ⟨-, -, -, -, -, -, htext'⟩ := check_eq_ok_iff.mp h'
    exact htext'.trans htext.symm
  secret_hidden e h he secret' supplied' hsupplied :=
    check_eq_error_iff.mpr ((check_eq_error_iff.mp h).of_secret hsupplied he)
  accepted_before h earlier hle := by
    obtain ⟨hid, hsupplied, hexpires, last, hread, hlast, htext⟩ := check_eq_ok_iff.mp h
    exact check_eq_ok_iff.mpr ⟨hid, hsupplied, hexpires, last, hread, hle.trans hlast, htext⟩
  expired_after h later hle := check_eq_error_iff.mpr ((check_eq_error_iff.mp h).expired_of_le hle)

end OfferToken

end WalletCredentials

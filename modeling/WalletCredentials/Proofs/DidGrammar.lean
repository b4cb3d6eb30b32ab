import WalletCredentials.Proofs.DidKey

/-!
# The grammar of identifiers

A text is read as an identifier exactly if it consists of the scheme, a method of lower-case letters
and digits and an identifier that is not empty, with colons between them. It splits into them in one
way, whatever stands in the identifier: further colons, number signs or letters of any script. The
fragment, which begins after the last colon of the text, need not be the identifier that begins
after the second. It is for the identifier of a key, and so the address of the key's verification
method splits into the text and the identifier.
-/

namespace WalletCredentials.Did

/-- Tells that a text is a method: lower-case ASCII letters and digits, one at least. -/
structure IsMethod (method : String) : Prop where
  ne_empty : method ≠ ""
  chars : ∀ c ∈ method.toList, 'a' ≤ c ∧ c ≤ 'z' ∨ '0' ≤ c ∧ c ≤ '9'

/-- Tells that a text consists of the scheme, a method and an identifier. -/
structure ConsistsOf (text method identifier : String) : Prop where
  text_eq : text = "did:" ++ method ++ ":" ++ identifier
  isMethod : IsMethod method
  identifier_ne : identifier ≠ ""

/-- Tells that a text is the longest end of another one that holds no colon. -/
structure IsLongestEnd (ending text : String) : Prop where
  isSuffix : ending.toList <:+ text.toList
  colon_notMem : ':' ∉ ending.toList
  longest : ∀ other, other <:+ text.toList → ':' ∉ other → other <:+ ending.toList

theorem isMethodChar_iff {c : Char} :
    isMethodChar c = true ↔ 'a' ≤ c ∧ c ≤ 'z' ∨ '0' ≤ c ∧ c ≤ '9' := by
  simp only [isMethodChar, Text.isDigit, Bool.or_eq_true, Bool.and_eq_true, decide_eq_true_eq]
  rfl

/-! ## Texts and their parts -/

variable {text method identifier : String} {did : Did}

theorem consistsOf_text (did : Did) : ConsistsOf did.text did.method did.identifier where
  text_eq := rfl
  isMethod.ne_empty h := did.method_ne (congrArg String.toList h)
  isMethod.chars c hc := isMethodChar_iff.mp (List.all_eq_true.mp did.method_chars c hc)
  identifier_ne h := did.identifier_ne (congrArg String.toList h)

theorem ConsistsOf.exists_read (h : ConsistsOf text method identifier) :
    ∃ did, read text = .ok did := by
  obtain ⟨rfl, hmethod, hidentifier⟩ := h
  have hchars : method.toList.all isMethodChar = true :=
    List.all_eq_true.mpr fun c hc => isMethodChar_iff.mpr (hmethod.chars c hc)
  have hne {part : String} (h : part ≠ "") : part.toList ≠ [] := by simpa using h
  exact ⟨⟨method, identifier, hne hmethod.ne_empty, hchars, hne hidentifier⟩,
    read_eq_ok_iff.mpr rfl⟩

/-- A text is read as an identifier exactly if it consists of parts that an identifier may have. -/
theorem exists_read_iff :
    (∃ did, read text = .ok did) ↔ ∃ method identifier, ConsistsOf text method identifier := by
  constructor
  · rintro ⟨did, h⟩
    obtain rfl := read_eq_ok_iff.mp h
    exact ⟨_, _, did.consistsOf_text⟩
  · rintro ⟨method, identifier, h⟩
    exact h.exists_read

theorem read_eq_error_iff :
    read text = .error (.invalidDid text) ↔ ¬∃ did, read text = .ok did := by
  rw [read]
  cases read? text with
  | none => simp
  | some did => simp

example : ∀ text ∈ ["", "did:", "did:key", "did::abc", "did:KEY:abc", "key:abc"],
    read text = .error (.invalidDid text) := by decide

/-- The text of an identifier splits at the first colon after the scheme, and so it has no other
parts, not even such as no identifier may have. -/
theorem parts_eq_of_text_eq (hcolon : ':' ∉ method.toList)
    (h : did.text = "did:" ++ method ++ ":" ++ identifier) :
    method = did.method ∧ identifier = did.identifier := by
  have hchars : method.toList ++ ':' :: identifier.toList =
      did.method.toList ++ ':' :: did.identifier.toList := by
    have htext := congrArg String.toList h
    rw [toList_text] at htext
    simpa [String.toList_append] using htext.symm
  have hcut := Text.cut_append identifier.toList hcolon
  rw [hchars, Text.cut_append _ did.colon_notMem_method, Prod.mk.injEq, Option.some.injEq] at hcut
  exact ⟨String.toList_inj.mp hcut.1.symm, String.toList_inj.mp hcut.2.symm⟩

theorem isLongestEnd_fragment (did : Did) : IsLongestEnd did.fragment did.text where
  isSuffix := by
    rw [fragment, String.toList_ofList]
    exact afterLastColon_suffix _
  colon_notMem := did.colon_notMem_fragment
  longest other hsuffix hcolon := by
    obtain ⟨before, htext⟩ := hsuffix
    rw [fragment, String.toList_ofList, ← htext, afterLastColon_append _ hcolon]
    exact List.suffix_append _ _

/-- Tells that a text has the parts of an identifier, and no others. -/
structure IsTextOf (text : String) (did : Did) : Prop where
  consists : ConsistsOf text did.method did.identifier
  unique : ∀ method identifier, ':' ∉ method.toList →
    text = "did:" ++ method ++ ":" ++ identifier →
    method = did.method ∧ identifier = did.identifier
  fragment : IsLongestEnd did.fragment text

theorem isTextOf_text (did : Did) : IsTextOf did.text did where
  consists := did.consistsOf_text
  unique _ _ := parts_eq_of_text_eq
  fragment := did.isLongestEnd_fragment

/-! ## The identifiers of keys -/

/-- Tells that the address of the verification method of an identifier splits at its first number
sign into the text and the part behind the method. -/
structure SplitsAtHash (did : Did) : Prop where
  read_text : read did.text = .ok did
  address_eq : did.verificationMethod = did.text ++ "#" ++ did.identifier
  hash_notMem : '#' ∉ did.text.toList
  cut_eq : Text.cut '#' did.verificationMethod.toList =
    (did.text.toList, some did.identifier.toList)

theorem splitsAtHash_ofPublicKey (key : Ed25519.PublicKey) :
    (DidKey.ofPublicKey key).SplitsAtHash := by
  have hfragment : (DidKey.ofPublicKey key).fragment = (DidKey.ofPublicKey key).identifier :=
    fragment_eq_identifier_iff.mpr (DidKey.colon_notMem_identifier key)
  constructor
  · exact Did.read_text _
  · rw [verificationMethod, hfragment]
  · exact DidKey.hash_notMem_text key
  · rw [verificationMethod, DidKey.cut_address, hfragment]

/-- A text is read as an identifier exactly if it is in the grammar of identifiers, and is refused
by name otherwise. It has the parts of the identifier that it is read as and no others, and the
fragment is its longest end without a colon. The address of the verification method of a key splits
at its first number sign into the identifier of the key and what stands behind the method. -/
theorem reads_exactly_grammar :
    (∀ text, ((∃ did, read text = .ok did) ↔
        ∃ method identifier, ConsistsOf text method identifier) ∧
      (read text = .error (.invalidDid text) ↔
        ¬∃ method identifier, ConsistsOf text method identifier)) ∧
    (∀ text did, read text = .ok did → IsTextOf text did) ∧
    ∀ key, (DidKey.ofPublicKey key).SplitsAtHash := by
  refine ⟨fun text => ⟨exists_read_iff, ?_⟩, ?_, splitsAtHash_ofPublicKey⟩
  · rw [← exists_read_iff]
    exact read_eq_error_iff
  · intro text did h
    obtain rfl := read_eq_ok_iff.mp h
    exact did.isTextOf_text

/-- A text that ends with a colon, after a number sign and a letter with an accent. -/
theorem isTextOf_of_final_colon :
    let did : Did := ⟨"web", "issuer.example:é#1:", by decide, by decide, by decide⟩
    read "did:web:issuer.example:é#1:" = .ok did ∧ did.fragment = "" ∧
      did.verificationMethod = "did:web:issuer.example:é#1:#" ∧
      IsTextOf "did:web:issuer.example:é#1:" did := by
  intro did
  have hread : read "did:web:issuer.example:é#1:" = .ok did := read_eq_ok_iff.mpr (by decide)
  exact ⟨hread, by decide, by decide, reads_exactly_grammar.2.1 _ _ hread⟩

end WalletCredentials.Did

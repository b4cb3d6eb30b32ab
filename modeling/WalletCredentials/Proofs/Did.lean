import Mathlib.Data.List.TakeWhile
import Mathlib.Tactic.Common
import WalletCredentials.Did

/-!
# Reading identifiers

An identifier is read from its own text and from no other one: the method holds no colon, so
that the text splits at the first colon after the scheme.
-/

namespace WalletCredentials.Did

theorem toList_text (did : Did) :
    did.text.toList =
      'd' :: 'i' :: 'd' :: ':' :: (did.method.toList ++ ':' :: did.identifier.toList) := by
  simp [text, String.toList_append]

theorem text_ne (did : Did) : did.text ≠ "" := by
  intro h
  have hchars := did.toList_text
  rw [h] at hchars
  cases hchars

theorem colon_notMem_method (did : Did) : ':' ∉ did.method.toList := by
  intro h
  have hall := List.all_eq_true.mp did.method_chars ':' h
  exact absurd hall (by decide)

theorem ofParts?_eq_some_iff {method identifier : String} {did : Did} :
    ofParts? method identifier = some did ↔
      did.method = method ∧ did.identifier = identifier := by
  rw [ofParts?]
  constructor
  · intro h
    split at h
    · cases h
      exact ⟨rfl, rfl⟩
    · cases h
  · rintro ⟨rfl, rfl⟩
    rw [dif_pos ⟨did.method_ne, did.method_chars, did.identifier_ne⟩]

/-- An identifier is read from its text, and from no other one. -/
theorem read?_eq_some_iff {text : String} {did : Did} : read? text = some did ↔ did.text = text := by
  constructor
  · intro h
    rw [read?] at h
    split at h
    · rename_i rest htext
      obtain ⟨⟨method, identifier⟩, hsplit, hparts⟩ := Option.bind_eq_some_iff.mp h
      obtain ⟨rfl, -⟩ := splitColon_eq_some.mp hsplit
      obtain ⟨hm, hi⟩ := ofParts?_eq_some_iff.mp hparts
      apply String.toList_inj.mp
      rw [toList_text, htext, hm, hi, String.toList_ofList, String.toList_ofList]
    · cases h
  · rintro rfl
    have hsplit := splitColon_eq_some.mpr
      (⟨rfl, did.colon_notMem_method⟩ : _ = _ ++ ':' :: did.identifier.toList ∧ _)
    rw [read?, toList_text]
    simp only [hsplit, Option.bind_eq_bind, Option.bind_some, String.ofList_toList]
    exact ofParts?_eq_some_iff.mpr ⟨rfl, rfl⟩

theorem text_injective {a b : Did} (h : a.text = b.text) : a = b := by
  have ha := read?_eq_some_iff.mpr h
  rw [read?_eq_some_iff.mpr rfl, Option.some.injEq] at ha
  exact ha.symm

theorem read_eq_ok_iff {text : String} {did : Did} : read text = .ok did ↔ did.text = text := by
  rw [← read?_eq_some_iff, read]
  cases read? text with
  | none => simp
  | some did' => simp

@[simp] theorem read_text (did : Did) : read did.text = .ok did := read_eq_ok_iff.mpr rfl

/-! ## The fragment -/

theorem colon_notMem_afterLastColon (cs : List Char) : ':' ∉ afterLastColon cs := by
  rw [afterLastColon, List.mem_reverse]
  intro h
  simpa using List.mem_takeWhile_imp h

theorem afterLastColon_suffix (cs : List Char) : afterLastColon cs <:+ cs := by
  rw [← List.reverse_prefix, afterLastColon, List.reverse_reverse]
  exact List.takeWhile_prefix _

/-- Characters without a colon that are put behind a list lengthen what stands after its last
colon. -/
theorem afterLastColon_append (before : List Char) {after : List Char} (h : ':' ∉ after) :
    afterLastColon (before ++ after) = afterLastColon before ++ after := by
  have hall : ∀ c ∈ after.reverse, (decide (c ≠ ':')) = true := by
    intro c hc
    exact decide_eq_true (ne_of_mem_of_not_mem (List.mem_reverse.mp hc) h)
  rw [afterLastColon, List.reverse_append, List.takeWhile_append_of_pos hall, List.reverse_append,
    List.reverse_reverse]
  rfl

theorem colon_notMem_fragment (did : Did) : ':' ∉ did.fragment.toList := by
  rw [fragment, String.toList_ofList]
  exact colon_notMem_afterLastColon _

/-- The fragment is the whole identifier behind the method if no colon stands in that. -/
theorem fragment_eq_identifier_iff {did : Did} :
    did.fragment = did.identifier ↔ ':' ∉ did.identifier.toList := by
  constructor
  · intro h
    rw [← h]
    exact did.colon_notMem_fragment
  · intro h
    have hchars : did.text.toList =
        ('d' :: 'i' :: 'd' :: ':' :: did.method.toList ++ [':']) ++ did.identifier.toList := by
      simp [toList_text]
    have hcolon (before : List Char) : afterLastColon (before ++ [':']) = [] := by
      simp [afterLastColon]
    rw [fragment, hchars, afterLastColon_append _ h, hcolon, List.nil_append, String.ofList_toList]

end WalletCredentials.Did

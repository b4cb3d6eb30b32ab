import Mathlib.Data.List.Basic
import WalletCredentials.Proofs.Json.Canonical

/-!
# How canonical forms are spelled

The rules of the canonical form, apart from how it is made: what stands for each character of a
string, and in which order the members of an object stand, by the bytes of their names as they
are spelled. Values have one spelling under these rules, and it is their canonical form.
-/

namespace WalletCredentials.Json

/-! ## Strings -/

/-- The characters with short escapes, and the letters of these. -/
def shortEscapes : List (Char × Char) :=
  [('"', '"'), ('\\', '\\'), (Char.ofNat 8, 'b'), (Char.ofNat 12, 'f'), ('\n', 'n'), ('\r', 'r'),
    ('\t', 't')]

/-- The spelling of a character in a string. -/
inductive IsEscaped (c : Char) : List Char → Prop
  | short {letter : Char} (h : (c, letter) ∈ shortEscapes) : IsEscaped c ['\\', letter]
  | control (hshort : ∀ letter, (c, letter) ∉ shortEscapes) (h : c.toNat < 32) :
      IsEscaped c ("\\u00".toList ++ Hex.digits [UInt8.ofNat c.toNat])
  | plain (hshort : ∀ letter, (c, letter) ∉ shortEscapes) (h : 32 ≤ c.toNat) : IsEscaped c [c]

theorem escape_of_mem {c letter : Char} (h : (c, letter) ∈ shortEscapes) :
    escape c = ['\\', letter] := by
  have hall : ∀ e ∈ shortEscapes, escape e.1 = ['\\', e.2] := by decide
  exact hall _ h

theorem escape_of_notMem {c : Char} (h : ∀ letter, (c, letter) ∉ shortEscapes) :
    escape c =
      if c.toNat < 32 then "\\u00".toList ++ Hex.digits [UInt8.ofNat c.toNat] else [c] := by
  have hne : ∀ e ∈ shortEscapes, c ≠ e.1 := by
    rintro ⟨c', letter⟩ he rfl
    exact h letter he
  simp only [shortEscapes, List.forall_mem_cons] at hne
  obtain ⟨hquote, hbackslash, hback, hfeed, hline, hreturn, htab, -⟩ := hne
  rw [escape, if_neg hquote, if_neg hbackslash, if_neg hback, if_neg hfeed, if_neg hline,
    if_neg hreturn, if_neg htab]
  by_cases hlt : c.toNat < 32
  · rw [if_pos hlt, if_pos hlt, Hex.digits, Hex.digits,
      UInt8.toNat_ofNat_of_lt' (show c.toNat < 256 by omega)]
    rfl
  · rw [if_neg hlt, if_neg hlt]

theorem isEscaped_iff {c : Char} {cs : List Char} : IsEscaped c cs ↔ cs = escape c := by
  constructor
  · rintro (h | ⟨hshort, h⟩ | ⟨hshort, h⟩)
    · exact (escape_of_mem h).symm
    · rw [escape_of_notMem hshort, if_pos h]
    · rw [escape_of_notMem hshort, if_neg (by omega)]
  · rintro rfl
    by_cases hshort : ∀ letter, (c, letter) ∉ shortEscapes
    · rw [escape_of_notMem hshort]
      split
      · exact .control hshort ‹_›
      · exact .plain hshort (by omega)
    · push Not at hshort
      obtain ⟨letter, hletter⟩ := hshort
      rw [escape_of_mem hletter]
      exact .short hletter

/-- The spelling of a string. -/
def IsQuoted (s : String) (cs : List Char) : Prop :=
  ∃ spelling : Char → List Char, (∀ c ∈ s.toList, IsEscaped c (spelling c)) ∧
    cs = '"' :: s.toList.flatMap spelling ++ ['"']

theorem isQuoted_iff {s : String} {cs : List Char} : IsQuoted s cs ↔ cs = quote s := by
  constructor
  · rintro ⟨spelling, hspelling, rfl⟩
    rw [quote, List.flatMap_congr fun c hc => isEscaped_iff.mp (hspelling c hc)]
  · rintro rfl
    exact ⟨escape, fun c _ => isEscaped_iff.mpr rfl, rfl⟩

/-! ## Members in the order of their names -/

theorem quote_injective : Function.Injective quote := by
  intro a b h
  have hread := readName_quote b []
  rw [← h, readName_quote] at hread
  exact (Prod.mk.inj (Option.some.inj hread)).1

/-- Tells that members stand in the order of the bytes of their names as they are spelled. -/
def SortedByQuote (members : List (String × Json)) : Prop :=
  members.Pairwise fun a b => Utf8.encodeChars (quote a.1) < Utf8.encodeChars (quote b.1)

namespace SortedByQuote

theorem insert {m : String × Json} {members : List (String × Json)}
    (hm : ∀ m' ∈ members, m'.1 ≠ m.1) (h : SortedByQuote members) :
    SortedByQuote (insertByQuote m members) := by
  induction members with
  | nil => exact List.pairwise_singleton ..
  | cons m' rest ih =>
      obtain ⟨hhead, hrest⟩ := List.pairwise_cons.mp h
      obtain ⟨hm', hne⟩ := List.forall_mem_cons.mp hm
      rw [insertByQuote]
      split
      · rename_i hlt
        have hbytes := Utf8.encodeChars_lt hlt
        refine List.pairwise_cons.mpr ⟨fun e he => ?_, h⟩
        rcases List.mem_cons.mp he with rfl | he
        · exact hbytes
        · exact List.lt_trans hbytes (hhead e he)
      · rename_i hge
        have hgt : quote m'.1 < quote m.1 := by
          refine (lt_or_gt_of_ne fun heq => hm' (quote_injective heq)).resolve_right hge
        refine List.pairwise_cons.mpr ⟨fun e he => ?_, ih hne hrest⟩
        rcases List.mem_cons.mp ((insertByQuote_perm m rest).mem_iff.mp he) with rfl | he
        · exact Utf8.encodeChars_lt hgt
        · exact hhead e he

theorem ordering {members : List (String × Json)} (h : (members.map Prod.fst).Nodup) :
    SortedByQuote (sortByQuote members) := by
  induction members with
  | nil => exact .nil
  | cons m rest ih =>
      obtain ⟨hm, hrest⟩ := List.nodup_cons.mp h
      refine (ih hrest).insert fun m' hm' heq => hm ?_
      exact List.mem_map.mpr ⟨m', (sortByQuote_perm rest).mem_iff.mp hm', heq⟩

/-- Members in the order of their names have different names. -/
theorem nodup_names {members : List (String × Json)} (h : SortedByQuote members) :
    (members.map Prod.fst).Nodup := by
  rw [List.nodup_iff_pairwise_ne, List.pairwise_map]
  refine h.imp fun {a b} hlt heq => ?_
  rw [heq] at hlt
  exact List.lt_irrefl _ hlt

/-- Members are brought into this order by ordering them. -/
theorem eq_sortByQuote {members arrangement : List (String × Json)}
    (h : SortedByQuote arrangement) (hperm : arrangement.Perm members) :
    arrangement = sortByQuote members := by
  have hnames : (members.map Prod.fst).Nodup := (hperm.map Prod.fst).nodup_iff.mp h.nodup_names
  exact (hperm.trans (sortByQuote_perm members).symm).eq_of_pairwise
    (fun _ _ _ _ hlt hgt => absurd hgt (Std.not_gt_of_lt hlt)) h (ordering hnames)

end SortedByQuote

/-! ## Values -/

/-- The spelling of a value. -/
inductive IsSpelled : Json → List Char → Prop
  | null : IsSpelled .null "null".toList
  | bool (b : Bool) : IsSpelled (.bool b) (toString b).toList
  | whole (n : Int) : IsSpelled (.number (.whole n)) (toString n).toList
  | string {s : String} {cs : List Char} (h : IsQuoted s cs) : IsSpelled (.string s) cs
  | array {items : List Json} (spelling : Json → List Char)
      (h : ∀ v ∈ items, IsSpelled v (spelling v)) :
      IsSpelled (.array items) ('[' :: [','].intercalate (items.map spelling) ++ [']'])
  | object {members arrangement : List (String × Json)} (hperm : arrangement.Perm members)
      (name : String → List Char) (hname : ∀ m ∈ arrangement, IsQuoted m.1 (name m.1))
      (hsorted : arrangement.Pairwise fun a b =>
        Utf8.encodeChars (name a.1) < Utf8.encodeChars (name b.1))
      (spelling : Json → List Char) (h : ∀ m ∈ arrangement, IsSpelled m.2 (spelling m.2)) :
      IsSpelled (.object members) ('{' ::
        [','].intercalate (arrangement.map fun m => name m.1 ++ ':' :: spelling m.2) ++ ['}'])

theorem commas_eq_intercalate (texts : List (List Char)) :
    commas texts = [','].intercalate texts := by
  induction texts with
  | nil => rfl
  | cons cs rest ih =>
      cases rest with
      | nil => simp [commas]
      | cons cs' rest =>
          rw [commas_cons_cons, ih, List.intercalate_cons_cons, List.append_assoc,
            List.singleton_append]

theorem itemChars_eq_map (style : Notation) (items : List Json) :
    itemChars style items = items.map (chars style) := by
  induction items with
  | nil => rfl
  | cons v rest ih => rw [itemChars, ih, List.map_cons]

theorem memberChars_eq_map (style : Notation) (members : List (String × Json)) :
    memberChars style members = members.map fun m => quote m.1 ++ ':' :: chars style m.2 := by
  induction members with
  | nil => rfl
  | cons m rest ih => rw [memberChars, ih, List.map_cons]

theorem insertByQuote_map (f : Json → Json) (m : String × Json) (members : List (String × Json)) :
    insertByQuote (m.1, f m.2) (members.map fun m => (m.1, f m.2)) =
      (insertByQuote m members).map fun m => (m.1, f m.2) := by
  induction members with
  | nil => rfl
  | cons m' rest ih =>
      rw [List.map_cons, insertByQuote, insertByQuote, ih]
      split
      · rfl
      · rfl

theorem sortByQuote_map (f : Json → Json) (members : List (String × Json)) :
    sortByQuote (members.map fun m => (m.1, f m.2)) =
      (sortByQuote members).map fun m => (m.1, f m.2) := by
  induction members with
  | nil => rfl
  | cons m rest ih =>
      rw [List.map_cons, sortByQuote, List.foldr_cons, ← sortByQuote, ih, insertByQuote_map]
      rfl

theorem canonicalChars_whole (n : Int) :
    canonicalChars (.number (.whole n)) = (toString n).toList := by
  have hchars : canonicalChars (.number (.whole n)) = (Text.ofInt n).toList := rfl
  rw [hchars, Text.ofInt]
  cases n with
  | ofNat n => rfl
  | negSucc n =>
      rw [if_pos (Int.negSucc_lt_zero n)]
      rfl

theorem canonicalChars_array (items : List Json) :
    canonicalChars (.array items) =
      '[' :: [','].intercalate (items.map canonicalChars) ++ [']'] := by
  rw [canonicalChars, ordered, chars, itemChars_eq_map, orderedItems_eq_map, List.map_map,
    commas_eq_intercalate]
  rfl

theorem canonicalChars_object (members : List (String × Json)) :
    canonicalChars (.object members) =
      '{' :: [','].intercalate
        ((sortByQuote members).map fun m => quote m.1 ++ ':' :: canonicalChars m.2) ++ ['}'] := by
  rw [canonicalChars, ordered, chars, memberChars_eq_map, orderedMembers_eq_map, sortByQuote_map,
    List.map_map, commas_eq_intercalate]
  rfl

/-- A value is spelled as its canonical form only. -/
theorem IsSpelled.eq_canonicalChars {v : Json} {cs : List Char} (h : IsSpelled v cs) :
    cs = canonicalChars v := by
  induction h with
  | null => decide
  | bool b => cases b <;> decide
  | whole n => exact (canonicalChars_whole n).symm
  | string h => exact isQuoted_iff.mp h
  | array spelling _ ih => rw [canonicalChars_array, List.map_congr_left ih]
  | @object members arrangement hperm name hname hsorted spelling _ ih =>
      have hquote : ∀ m ∈ arrangement, name m.1 = quote m.1 := fun m hm =>
        isQuoted_iff.mp (hname m hm)
      -- The names are spelled in one way, so their order is the canonical one.
      have harrangement : SortedByQuote arrangement := by
        refine hsorted.imp_of_mem fun {a b} ha hb hlt => ?_
        rwa [hquote a ha, hquote b hb] at hlt
      rw [canonicalChars_object, ← harrangement.eq_sortByQuote hperm,
        List.map_congr_left fun m hm => by rw [hquote m hm, ih m hm]]

/-- The canonical form of a value spells it. -/
theorem IsIntegral.isSpelled {v : Json} (h : IsIntegral v) : IsSpelled v (canonicalChars v) := by
  induction h with
  | null => exact .null
  | bool b =>
      cases b with
      | true => exact .bool true
      | false => exact .bool false
  | @whole n _ =>
      rw [canonicalChars_whole]
      exact .whole n
  | string s => exact .string (isQuoted_iff.mpr rfl)
  | array _ ih =>
      rw [canonicalChars_array]
      exact .array canonicalChars ih
  | @object members hsorted _ ih =>
      have hperm := sortByQuote_perm members
      rw [canonicalChars_object]
      exact .object hperm quote (fun m _ => isQuoted_iff.mpr rfl)
        (SortedByQuote.ordering hsorted.nodup_keys) canonicalChars
        fun m hm => ih m (hperm.mem_iff.mp hm)

/-- The canonical form of a value is its one spelling. -/
theorem IsIntegral.isSpelled_iff {v : Json} {cs : List Char} (h : IsIntegral v) :
    IsSpelled v cs ↔ cs = canonicalChars v := by
  constructor
  · exact IsSpelled.eq_canonicalChars
  · rintro rfl
    exact h.isSpelled

/-- A name stands after the longer one that goes on with a character below the quote. -/
example : canonicalText (.object [("a", .null), ("a!", .string "\n")]) =
    "\x7b\"a!\":\"\\n\",\"a\":null\x7d" := by decide

end WalletCredentials.Json

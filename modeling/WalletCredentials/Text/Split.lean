/-!
# Splitting texts

Texts are taken apart at marks: at the first one, at the last one, or at all of them.
-/

namespace WalletCredentials.Text

/-- The characters before the first mark, and those after it if there is one. -/
def cut (mark : Char) : List Char → List Char × Option (List Char)
  | [] => ([], none)
  | c :: rest =>
      if c = mark then ([], some rest)
      else
        let (before, after) := cut mark rest
        (c :: before, after)

/-- The characters before the last mark if there is one, and those after it. -/
def cutLast (mark : Char) (cs : List Char) : Option (List Char) × List Char :=
  let (after, before) := cut mark cs.reverse
  (before.map List.reverse, after.reverse)

/-- The pieces of a text between its marks: one more than there are marks. -/
def pieces (mark : Char) : List Char → List (List Char)
  | [] => [[]]
  | c :: rest =>
      if c = mark then [] :: pieces mark rest
      else match pieces mark rest with
        | [] => [[c]]
        | piece :: others => (c :: piece) :: others

/-- The characters up to the last that has not a property. -/
def dropEnd (p : Char → Bool) (cs : List Char) : List Char :=
  (cs.reverse.dropWhile p).reverse

/-- The characters without those at both ends that have a property. -/
def trim (p : Char → Bool) (cs : List Char) : List Char :=
  dropEnd p (cs.dropWhile p)

/-- A text without the slashes at its end. -/
def withoutEndSlashes (text : String) : String :=
  String.ofList (dropEnd (· = '/') text.toList)

theorem mem_of_mem_dropEnd {p : Char → Bool} {c : Char} {cs : List Char} (h : c ∈ dropEnd p cs) :
    c ∈ cs :=
  List.mem_reverse.mp ((List.dropWhile_sublist p).mem (List.mem_reverse.mp h))

theorem mem_of_mem_cut {mark c : Char} {cs : List Char} (h : c ∈ (cut mark cs).1) : c ∈ cs := by
  induction cs with
  | nil => simp [cut] at h
  | cons d rest ih =>
      unfold cut at h
      split at h
      · simp at h
      · rcases List.mem_cons.mp h with rfl | h
        · exact List.mem_cons_self
        · exact List.mem_cons_of_mem _ (ih h)

theorem cut_of_notMem {mark : Char} {cs : List Char} (h : mark ∉ cs) :
    cut mark cs = (cs, none) := by
  induction cs with
  | nil => rfl
  | cons c rest ih =>
      simp only [List.mem_cons, not_or] at h
      simp [cut, Ne.symm h.1, ih h.2]

theorem cut_append {mark : Char} {a : List Char} (b : List Char) (h : mark ∉ a) :
    cut mark (a ++ mark :: b) = (a, some b) := by
  induction a with
  | nil => simp [cut]
  | cons c rest ih =>
      simp only [List.mem_cons, not_or] at h
      simp [cut, Ne.symm h.1, ih h.2]

theorem pieces_ne_nil (mark : Char) (cs : List Char) : pieces mark cs ≠ [] := by
  cases cs with
  | nil => exact List.cons_ne_nil _ _
  | cons c cs =>
      rw [pieces]
      split
      · exact List.cons_ne_nil _ _
      · split
        · exact List.cons_ne_nil _ _
        · exact List.cons_ne_nil _ _

theorem pieces_of_notMem {mark : Char} {cs : List Char} (h : mark ∉ cs) :
    pieces mark cs = [cs] := by
  induction cs with
  | nil => rfl
  | cons c cs ih =>
      rw [List.mem_cons, not_or] at h
      rw [pieces, if_neg (Ne.symm h.1), ih h.2]

/-- The pieces on both sides of a mark. -/
theorem pieces_append_cons (mark : Char) (a b : List Char) :
    pieces mark (a ++ mark :: b) = pieces mark a ++ pieces mark b := by
  induction a with
  | nil =>
      show pieces mark (mark :: b) = [] :: pieces mark b
      rw [pieces, if_pos rfl]
  | cons c a ih =>
      rw [List.cons_append, pieces, pieces, ih]
      split
      · rw [List.cons_append]
      · cases h : pieces mark a with
        | nil => exact absurd h (pieces_ne_nil mark a)
        | cons piece others => rfl

end WalletCredentials.Text

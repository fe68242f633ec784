/-!
# Splitting text

Cutting a list of characters at separators. A text with `n` separators has `n + 1` pieces, so the
empty text is one empty piece.

## Main results

* `Chars.intercalate_splitAtChar`: the pieces joined by the separator give the text back.
* `Chars.splitWhen_append_cons`: a text with a separator in it is cut there.
* `Chars.mem_dropLast_splitAtChar_iff`: where the pieces before the last one stand.
-/

namespace TrackedComments.Chars

/-- The pieces between the characters that satisfy `isSep`. -/
def splitWhen (isSep : Char → Bool) (cs : List Char) : List (List Char) :=
  cs.foldr
    (fun c pieces =>
      if isSep c then [] :: pieces
      else match pieces with
        | [] => [[c]]
        | piece :: rest => (c :: piece) :: rest)
    [[]]

/-- The pieces between the occurrences of one character. -/
def splitAtChar (sep : Char) (cs : List Char) : List (List Char) :=
  splitWhen (· == sep) cs

/-- The text before and the text after the first occurrence of a character. -/
def splitOnce (sep : Char) (cs : List Char) : Option (List Char × List Char) :=
  match cs.dropWhile (· != sep) with
  | [] => none
  | _ :: rest => some (cs.takeWhile (· != sep), rest)

@[simp] theorem splitWhen_nil (isSep : Char → Bool) : splitWhen isSep [] = [[]] := rfl

theorem splitWhen_cons_of_sep {isSep : Char → Bool} {c : Char} (h : isSep c) (cs : List Char) :
    splitWhen isSep (c :: cs) = [] :: splitWhen isSep cs := by
  simp [splitWhen, h]

/-- There is always a piece. -/
theorem splitWhen_ne_nil (isSep : Char → Bool) (cs : List Char) : splitWhen isSep cs ≠ [] := by
  induction cs with
  | nil => simp
  | cons c cs ih =>
    by_cases h : isSep c
    · simp [splitWhen_cons_of_sep h]
    · simp only [splitWhen, List.foldr_cons, if_neg h]
      split <;> exact List.cons_ne_nil _ _

theorem splitWhen_cons_of_not_sep {isSep : Char → Bool} {c : Char} (h : ¬ isSep c)
    {cs piece : List Char} {rest : List (List Char)} (hcs : splitWhen isSep cs = piece :: rest) :
    splitWhen isSep (c :: cs) = (c :: piece) :: rest := by
  rw [splitWhen] at hcs
  simp [splitWhen, h, hcs]

/-- Pieces joined in two parts. -/
theorem intercalate_append (sep : Char) {front back : List (List Char)} (hfront : front ≠ [])
    (hback : back ≠ []) :
    [sep].intercalate (front ++ back) =
      [sep].intercalate front ++ sep :: [sep].intercalate back := by
  obtain ⟨next, more, rfl⟩ := List.exists_cons_of_ne_nil hback
  induction front with
  | nil => exact absurd rfl hfront
  | cons piece front ih =>
    cases front with
    | nil => simp [List.intercalate_cons_cons]
    | cons piece' front =>
      rw [List.cons_append, List.cons_append, List.intercalate_cons_cons, ← List.cons_append,
        ih (by simp), List.intercalate_cons_cons]
      simp

/-- The pieces joined by the separator give the text back. -/
theorem intercalate_splitAtChar (sep : Char) (cs : List Char) :
    [sep].intercalate (splitAtChar sep cs) = cs := by
  induction cs with
  | nil => rfl
  | cons c cs ih =>
    obtain ⟨piece, rest, h⟩ := List.exists_cons_of_ne_nil (splitWhen_ne_nil (· == sep) cs)
    rw [splitAtChar, h] at ih
    by_cases hc : c = sep
    · subst hc
      rw [splitAtChar, splitWhen_cons_of_sep (by simp), h]
      simp_all [List.intercalate]
    · rw [splitAtChar, splitWhen_cons_of_not_sep (by simpa using hc) h]
      cases rest <;> simp_all [List.intercalate]

/-- There is always a piece. -/
theorem splitAtChar_ne_nil (sep : Char) (cs : List Char) : splitAtChar sep cs ≠ [] :=
  splitWhen_ne_nil (· == sep) cs

/-- A text with a separator in it is cut there. -/
theorem splitWhen_append_cons {isSep : Char → Bool} {c : Char} (h : isSep c)
    (before after : List Char) :
    splitWhen isSep (before ++ c :: after) =
      splitWhen isSep before ++ splitWhen isSep after := by
  induction before with
  | nil => rw [List.nil_append, splitWhen_cons_of_sep h]; rfl
  | cons d before ih =>
    obtain ⟨piece, rest, hpieces⟩ := List.exists_cons_of_ne_nil (splitWhen_ne_nil isSep before)
    by_cases hd : isSep d
    · rw [List.cons_append, splitWhen_cons_of_sep hd, splitWhen_cons_of_sep hd, ih,
        List.cons_append]
    · have happ : splitWhen isSep (before ++ c :: after) =
          piece :: (rest ++ splitWhen isSep after) := by
        rw [ih, hpieces, List.cons_append]
      rw [List.cons_append, splitWhen_cons_of_not_sep hd happ,
        splitWhen_cons_of_not_sep hd hpieces, List.cons_append]

/-- A text without separators is one piece. -/
theorem splitWhen_of_forall_not {isSep : Char → Bool} {cs : List Char}
    (h : ∀ c ∈ cs, isSep c = false) : splitWhen isSep cs = [cs] := by
  induction cs with
  | nil => rfl
  | cons c cs ih =>
    have hc : ¬ isSep c := by simp [h c List.mem_cons_self]
    exact splitWhen_cons_of_not_sep hc (ih fun d hd => h d (List.mem_cons_of_mem c hd))

/-- A text is cut at a separator that does not occur before. -/
theorem splitOnce_append_cons {sep : Char} {before : List Char} (h : sep ∉ before)
    (after : List Char) : splitOnce sep (before ++ sep :: after) = some (before, after) := by
  have hbefore : ∀ c ∈ before, (c != sep) = true := by
    intro c hc
    have hne : c ≠ sep := fun heq => h (heq ▸ hc)
    simpa using hne
  rw [splitOnce, List.dropWhile_append_of_pos hbefore, List.takeWhile_append_of_pos hbefore]
  simp

/-- The pieces before a separator and those after it. -/
theorem splitAtChar_append_cons (sep : Char) (before after : List Char) :
    splitAtChar sep (before ++ sep :: after) =
      splitAtChar sep before ++ splitAtChar sep after :=
  splitWhen_append_cons (by simp) before after

/-- A text without the separator is its only piece. -/
theorem splitAtChar_of_not_mem {sep : Char} {cs : List Char} (h : sep ∉ cs) :
    splitAtChar sep cs = [cs] := by
  refine splitWhen_of_forall_not fun c hc => ?_
  have hne : c ≠ sep := fun heq => h (heq ▸ hc)
  simpa using hne

/-- No piece has a separator in it. -/
theorem isSep_of_mem_splitWhen {isSep : Char → Bool} {cs piece : List Char}
    (h : piece ∈ splitWhen isSep cs) : ∀ c ∈ piece, isSep c = false := by
  induction cs generalizing piece with
  | nil =>
    obtain rfl : piece = [] := by simpa using h
    simp
  | cons c cs ih =>
    obtain ⟨first, rest, hcs⟩ := List.exists_cons_of_ne_nil (splitWhen_ne_nil isSep cs)
    by_cases hc : isSep c
    · rw [splitWhen_cons_of_sep hc] at h
      rcases List.mem_cons.mp h with rfl | h
      · simp
      · exact ih h
    · rw [splitWhen_cons_of_not_sep hc hcs] at h
      rw [hcs] at ih
      rcases List.mem_cons.mp h with rfl | h
      · intro d hd
        rcases List.mem_cons.mp hd with rfl | hd
        · simpa using hc
        · exact ih List.mem_cons_self d hd
      · exact ih (List.mem_cons_of_mem _ h)

/-- No piece holds the separator. -/
theorem not_mem_of_mem_splitAtChar {sep : Char} {cs piece : List Char}
    (h : piece ∈ splitAtChar sep cs) : sep ∉ piece := fun hmem => by
  simpa using isSep_of_mem_splitWhen h sep hmem

/-- Pieces that are put together have their own characters, separators apart. -/
theorem mem_intercalate_iff {sep c : Char} (hc : c ≠ sep) {pieces : List (List Char)} :
    c ∈ [sep].intercalate pieces ↔ ∃ piece ∈ pieces, c ∈ piece := by
  induction pieces with
  | nil => simp
  | cons piece pieces ih =>
    cases pieces with
    | nil => simp
    | cons next rest => simp [List.intercalate_cons_cons, ih, hc]

/-- A character other than the separator is in a text if it is in one of the pieces. -/
theorem mem_iff_exists_mem_splitAtChar {sep c : Char} (hc : c ≠ sep) {cs : List Char} :
    c ∈ cs ↔ ∃ piece ∈ splitAtChar sep cs, c ∈ piece := by
  rw [← mem_intercalate_iff hc, intercalate_splitAtChar]

/-- The pieces before the last one are what stands between the start of the text or a separator and
the next separator. -/
theorem mem_dropLast_splitAtChar_iff {sep : Char} {cs piece : List Char} :
    piece ∈ (splitAtChar sep cs).dropLast ↔
      sep ∉ piece ∧ ∃ before after, cs = before ++ (piece ++ sep :: after) ∧
        (before = [] ∨ ∃ init, before = init ++ [sep]) := by
  constructor
  · intro h
    refine ⟨not_mem_of_mem_splitAtChar ((List.dropLast_sublist _).subset h), ?_⟩
    obtain ⟨front, back, hpieces⟩ := List.append_of_mem h
    have hcs : [sep].intercalate (front ++
        piece :: (back ++ [(splitAtChar sep cs).getLast (splitAtChar_ne_nil sep cs)])) = cs := by
      rw [← List.cons_append, ← List.append_assoc, ← hpieces, List.dropLast_concat_getLast,
        intercalate_splitAtChar]
    generalize (splitAtChar sep cs).getLast _ = last at hcs
    have hpiece := intercalate_append sep (List.cons_ne_nil piece [])
      (List.append_ne_nil_of_right_ne_nil back (List.cons_ne_nil last []))
    rw [List.singleton_append, List.intercalate_singleton] at hpiece
    by_cases hfront : front = []
    · subst hfront
      exact ⟨[], _, by rw [← hcs, List.nil_append, hpiece]; rfl, .inl rfl⟩
    · rw [intercalate_append sep hfront (List.cons_ne_nil _ _), hpiece] at hcs
      exact ⟨_ ++ [sep], _, by rw [← hcs, List.append_assoc]; rfl, .inr ⟨_, rfl⟩⟩
  · rintro ⟨hpiece, before, after, rfl, hbefore⟩
    have hafter := splitAtChar_ne_nil sep after
    rcases hbefore with rfl | ⟨init, rfl⟩
    · rw [List.nil_append, splitAtChar_append_cons, splitAtChar_of_not_mem hpiece,
        List.dropLast_append_of_ne_nil hafter]
      exact List.mem_append_left _ List.mem_cons_self
    · rw [List.append_assoc, List.singleton_append, splitAtChar_append_cons,
        splitAtChar_append_cons, splitAtChar_of_not_mem hpiece,
        List.dropLast_append_of_ne_nil (by simp), List.dropLast_append_of_ne_nil hafter]
      simp

end TrackedComments.Chars

import Mathlib.Tactic.Common
import TrackedComments.Text.Space

/-!
# Trimmed texts

A text is trimmed if it neither begins nor ends with a blank.

## Main results

* `Chars.trimStart_eq_self_iff`, `Chars.trimEnd_eq_self_iff`, `Chars.trim_eq_self_iff`: which texts
  trimming leaves alone.
* `Chars.trim_of_head?`: only the end is trimmed of a text that begins with no blank.
* `Chars.trim_append_cons`: trimming goes no further than to a character that is no blank.
* `Chars.trim_trim`: trimming a second time finds nothing.
-/

namespace TrackedComments.Chars

/-- Blanks in front are all that `trimStart` removes. -/
theorem exists_append_trimStart (cs : List Char) :
    ∃ blanks, cs = blanks ++ trimStart cs ∧ ∀ c ∈ blanks, isSpace c :=
  ⟨cs.takeWhile isSpace, List.takeWhile_append_dropWhile.symm,
    List.all_eq_true.mp List.all_takeWhile⟩

/-- No blank is left at the front. -/
theorem isSpace_of_mem_head?_trimStart (cs : List Char) :
    ∀ c ∈ (trimStart cs).head?, isSpace c = false := by
  intro c hc
  have hnot := List.head?_dropWhile_not isSpace cs
  rw [← trimStart, hc] at hnot
  exact hnot

/-- Nothing is trimmed at the front just when there is no blank. -/
theorem trimStart_eq_self_iff {cs : List Char} :
    trimStart cs = cs ↔ ∀ c ∈ cs.head?, isSpace c = false := by
  constructor
  · intro h
    rw [← h]
    exact isSpace_of_mem_head?_trimStart _
  · intro h
    cases cs with
    | nil => rfl
    | cons c cs => rw [trimStart, List.dropWhile_cons_of_neg (by simp [h c rfl])]

/-- Nothing is trimmed at the end just when there is no blank. -/
theorem trimEnd_eq_self_iff {cs : List Char} :
    trimEnd cs = cs ↔ ∀ c ∈ cs.getLast?, isSpace c = false := by
  rw [trimEnd, List.reverse_eq_iff, ← trimStart, trimStart_eq_self_iff, List.head?_reverse]

/-- What is left after trimming the end is the front of the text. -/
theorem trimEnd_prefix (cs : List Char) : trimEnd cs <+: cs := by
  obtain ⟨blanks, hcs, -⟩ := exists_trimEnd_append cs
  exact ⟨blanks, hcs.symm⟩

/-- Something is left of a text that begins with no blank. -/
theorem trimEnd_ne_nil {cs : List Char} (hne : cs ≠ []) (h : ∀ c ∈ cs.head?, isSpace c = false) :
    trimEnd cs ≠ [] := by
  intro hnil
  obtain ⟨blanks, hcs, hblanks⟩ := exists_trimEnd_append cs
  rw [hnil, List.nil_append] at hcs
  obtain ⟨c, rest, rfl⟩ := List.exists_cons_of_ne_nil hne
  have hblank := hblanks c (hcs ▸ List.mem_cons_self)
  rw [h c rfl] at hblank
  exact Bool.false_ne_true hblank

/-- No beginning of a text that begins with no blank begins with one. -/
theorem isSpace_of_prefix {cs before : List Char} (hbefore : before <+: cs)
    (h : ∀ c ∈ cs.head?, isSpace c = false) : ∀ c ∈ before.head?, isSpace c = false := by
  intro c hc
  obtain ⟨after, rfl⟩ := hbefore
  refine h c ?_
  rw [List.head?_append, hc]
  rfl

/-- A text that begins with no blank is trimmed at its end alone. -/
theorem trim_of_head? {cs : List Char} (h : ∀ c ∈ cs.head?, isSpace c = false) :
    trim cs = trimEnd cs := by
  rw [trim, trimStart_eq_self_iff]
  have hbefore := trimEnd_prefix cs
  exact isSpace_of_prefix hbefore h

/-- Nothing is trimmed just when there is a blank at neither side. -/
theorem trim_eq_self_iff {cs : List Char} :
    trim cs = cs ↔
      (∀ c ∈ cs.head?, isSpace c = false) ∧ ∀ c ∈ cs.getLast?, isSpace c = false := by
  constructor
  · intro h
    have hhead : ∀ c ∈ cs.head?, isSpace c = false := by
      rw [← h]
      exact isSpace_of_mem_head?_trimStart _
    rw [trim_of_head? hhead] at h
    exact ⟨hhead, trimEnd_eq_self_iff.mp h⟩
  · rintro ⟨hhead, hlast⟩
    rw [trim_of_head? hhead, trimEnd_eq_self_iff.mpr hlast]

/-! ### Blanks around a text -/

/-- Dropping stops at a character that fails the test. -/
theorem dropWhile_append_cons_of_neg {p : Char → Bool} {c : Char} (hc : p c = false)
    (cs rest : List Char) : (cs ++ c :: rest).dropWhile p = cs.dropWhile p ++ c :: rest := by
  induction cs with
  | nil => simp [hc]
  | cons d cs ih =>
    rw [List.cons_append, List.dropWhile_cons, List.dropWhile_cons]
    split
    · exact ih
    · rfl

/-- Trimming goes no further than to a character that is no blank. -/
theorem trim_append_cons {c : Char} (hc : isSpace c = false) (before after : List Char) :
    trim (before ++ c :: after) = trimStart before ++ c :: trimEnd after := by
  have hend : trimEnd (before ++ c :: after) = before ++ c :: trimEnd after := by
    have hreverse : (before ++ c :: after).reverse = after.reverse ++ c :: before.reverse := by simp
    rw [trimEnd, hreverse, dropWhile_append_cons_of_neg hc]
    simp [trimEnd]
  rw [trim, hend, trimStart, dropWhile_append_cons_of_neg hc, ← trimStart]

/-- Blanks hold nothing but blanks. -/
theorem not_mem_of_isBlank {blanks : List Char} (h : isBlank blanks) {c : Char}
    (hc : isSpace c = false) : c ∉ blanks := fun hmem => by
  have hspace := List.all_eq_true.mp h c hmem
  exact Bool.false_ne_true (hc.symm.trans hspace)

/-- Blanks alone are trimmed away. -/
theorem trim_eq_nil_iff {cs : List Char} : trim cs = [] ↔ isBlank cs := by
  rw [isBlank, List.all_eq_true]
  constructor
  · intro h c hc
    by_contra hspace
    obtain ⟨before, after, rfl⟩ := List.append_of_mem hc
    rw [trim_append_cons (by simpa using hspace)] at h
    simp at h
  · intro h
    have hend := trimEnd_append_of_isSpace [] h
    rw [List.nil_append] at hend
    rw [trim, hend]
    rfl

/-- Blanks at the end are trimmed. -/
theorem trim_append_of_isBlank (cs : List Char) {blanks : List Char} (h : isBlank blanks) :
    trim (cs ++ blanks) = trim cs := by
  rw [trim, trimEnd_append_of_isSpace cs (List.all_eq_true.mp h), ← trim]

/-- Blanks in front are trimmed away. -/
theorem trim_append_of_isBlank_left {blanks : List Char} (h : isBlank blanks) (cs : List Char) :
    trim (blanks ++ cs) = trim cs := by
  by_cases hcs : isBlank cs
  · have hall : isBlank (blanks ++ cs) := by
      rw [isBlank, List.all_append, ← isBlank, ← isBlank, h, hcs]
      rfl
    rw [trim_eq_nil_iff.mpr hall, trim_eq_nil_iff.mpr hcs]
  · obtain ⟨c, hc, hspace⟩ : ∃ c ∈ cs, isSpace c = false := by simpa [isBlank] using hcs
    obtain ⟨before, after, rfl⟩ := List.append_of_mem hc
    rw [← List.append_assoc, trim_append_cons hspace, trim_append_cons hspace, trimStart,
      List.dropWhile_append_of_pos (List.all_eq_true.mp h), ← trimStart]

/-- Trimming takes off all that trimming the front does. -/
theorem trim_trimStart (cs : List Char) : trim (trimStart cs) = trim cs := by
  obtain ⟨blanks, hcs, hblanks⟩ := exists_append_trimStart cs
  conv_rhs => rw [hcs, trim_append_of_isBlank_left (List.all_eq_true.mpr hblanks)]

/-- What has been trimmed need not be trimmed again. -/
theorem trim_trim (cs : List Char) : trim (trim cs) = trim cs := by
  conv_lhs => rw [trim.eq_def cs, trim_trimStart, trim_trimEnd]

/-- Trimming the front adds nothing. -/
theorem mem_of_mem_trimStart {c : Char} {cs : List Char} (h : c ∈ trimStart cs) : c ∈ cs :=
  (List.dropWhile_sublist _).subset h

/-- Trimming adds nothing. -/
theorem mem_of_mem_trim {c : Char} {cs : List Char} (h : c ∈ trim cs) : c ∈ cs := by
  have hbefore := trimEnd_prefix cs
  exact hbefore.subset (mem_of_mem_trimStart h)

end TrackedComments.Chars

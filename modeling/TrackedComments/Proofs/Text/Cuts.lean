import TrackedComments.Proofs.Text.Lines

/-!
# Texts around a line

A line can be pointed out in a text without cutting the whole text into lines. What stands before
it is empty or ends in a line feed and has one line feed for each line before it. The line itself
goes as far as the next line feed, with which a carriage return belongs to the ending, or to the end
of the text.

## Main results

* `CutsAt.lines_eq`: the lines before the line, the line, and the lines after it.
* `getElem?_lines_eq_some_iff`: the lines of a text are what can be pointed out in it.
-/

namespace TrackedComments

variable {content before after cs more : List Char} {index : Nat} {l : Line}

/-! ### Whole lines -/

/-- Whether a text is empty or ends in a line feed, so that what follows it is on new lines. -/
def EndsLine (cs : List Char) : Prop :=
  cs = [] ∨ cs.getLast? = some '\n'

/-- What follows the first character of a text ends its line if the text does. -/
theorem EndsLine.of_cons {c : Char} (h : EndsLine (c :: cs)) : EndsLine cs := by
  cases cs with
  | nil => exact .inl rfl
  | cons d cs =>
    rw [EndsLine, List.getLast?_cons_cons] at h
    exact .inr (h.resolve_left (List.cons_ne_nil c _))

/-- Texts that end their lines do so together. -/
theorem EndsLine.append (h : EndsLine before) (h' : EndsLine after) :
    EndsLine (before ++ after) := by
  rcases h' with rfl | h'
  · rwa [List.append_nil]
  · refine .inr ?_
    rw [List.getLast?_append, h', Option.some_or]

/-- A character before a text with lines belongs to the first of them or to one of its own. -/
theorem Line.cons_append (c : Char) {rest : List Line} (hne : rest ≠ [] ∨ c = '\n')
    (others : List Line) : Line.cons c (rest ++ others) = Line.cons c rest ++ others := by
  unfold Line.cons
  split
  · rfl
  · rename_i hc
    cases rest with
    | nil => exact absurd (hne.resolve_left fun h => h rfl) hc
    | cons l rest =>
      rw [List.cons_append]
      dsimp only
      split <;> rfl

/-- A character in front of a line makes no new line. -/
theorem Line.length_cons {c : Char} (hc : c ≠ '\n') {rest : List Line} (hne : rest ≠ []) :
    (Line.cons c rest).length = rest.length := by
  unfold Line.cons
  rw [if_neg hc]
  cases rest with
  | nil => exact absurd rfl hne
  | cons l rest =>
    dsimp only
    split <;> rfl

/-- A text that is not empty has lines. -/
theorem lines_ne_nil (h : cs ≠ []) : lines cs ≠ [] := by
  intro hnil
  have hcs := lines_flatMap_toChars cs
  rw [hnil, List.flatMap_nil] at hcs
  exact h hcs.symm

/-- Behind a character that ends no line there are further lines. -/
theorem EndsLine.lines_ne_nil_or_eq {c : Char} (h : EndsLine (c :: cs)) :
    lines cs ≠ [] ∨ c = '\n' := by
  by_cases hcs : cs = []
  · subst hcs
    have hlast := h.resolve_left (List.cons_ne_nil c [])
    exact .inr (Option.some.inj hlast)
  · exact .inl (lines_ne_nil hcs)

/-- What follows whole lines is cut into lines on its own. -/
theorem lines_append (h : EndsLine before) (more : List Char) :
    lines (before ++ more) = lines before ++ lines more := by
  induction before with
  | nil => rfl
  | cons c before ih =>
    rw [List.cons_append, lines_cons, ih h.of_cons, lines_cons]
    exact Line.cons_append c h.lines_ne_nil_or_eq _

/-- Whole lines have one line feed each. -/
theorem length_lines (h : EndsLine cs) : (lines cs).length = cs.count '\n' := by
  induction cs with
  | nil => rfl
  | cons c cs ih =>
    have hrest := ih h.of_cons
    rw [lines_cons]
    by_cases hc : c = '\n'
    · subst hc
      have hfirst : Line.cons '\n' (lines cs) = ⟨[], .lf⟩ :: lines cs := rfl
      rw [hfirst, List.length_cons, List.count_cons_self, hrest]
    · rw [Line.length_cons hc (h.lines_ne_nil_or_eq.resolve_right hc),
        List.count_cons_of_ne hc, hrest]

/-! ### Cuts -/

/-- How a text is cut around the line with a number, counted from 0. -/
structure CutsAt (content : List Char) (index : Nat) (before : List Char) (l : Line)
    (after : List Char) : Prop where
  eq : content = before ++ l.toChars ++ after
  endsLine : EndsLine before
  count_before : before.count '\n' = index
  not_mem_lf : '\n' ∉ l.body
  /-- A carriage return before the line feed belongs to the ending. -/
  of_lf : l.ending = .lf → l.body.getLast? ≠ some '\r'
  /-- A line without an ending is the last one, and it is not empty. -/
  of_none : l.ending = .none → l.body ≠ [] ∧ after = []

/-- A line stands before the lines of what follows it. -/
theorem lines_toChars_append (hbody : '\n' ∉ l.body)
    (hlf : l.ending = .lf → l.body.getLast? ≠ some '\r')
    (hnone : l.ending = .none → l.body ≠ [] ∧ after = []) :
    lines (l.toChars ++ after) = l :: lines after := by
  obtain ⟨body, ending⟩ := l
  cases ending with
  | none =>
    obtain ⟨hne, rfl⟩ := hnone rfl
    rw [Line.toChars, LineEnding.toChars, List.append_nil, List.append_nil,
      lines_of_not_mem hne hbody, lines_nil]
  | lf =>
    rw [Line.toChars, LineEnding.toChars, List.append_assoc, List.singleton_append,
      lines_append_lf hbody (hlf rfl)]
  | crlf =>
    rw [Line.toChars, LineEnding.toChars, List.append_assoc, List.cons_append,
      List.singleton_append, lines_append_crlf hbody]

namespace CutsAt

/-- The lines before the line, the line, and the lines after it. -/
theorem lines_eq (h : CutsAt content index before l after) :
    lines content = lines before ++ l :: lines after ∧ (lines before).length = index := by
  rw [h.eq, List.append_assoc, lines_append h.endsLine,
    lines_toChars_append h.not_mem_lf h.of_lf h.of_none, length_lines h.endsLine, h.count_before]
  exact ⟨rfl, rfl⟩

/-- Another line in the place of the line leaves what stands before and after it. -/
theorem flatMap_set (h : CutsAt content index before l after) (l' : Line) :
    ((lines content).set index l').flatMap Line.toChars = before ++ l'.toChars ++ after := by
  obtain ⟨hlines, hlength⟩ := h.lines_eq
  rw [hlines, ← hlength, List.set_append_right _ _ (Nat.le_refl _), Nat.sub_self,
    List.set_cons_zero, List.flatMap_append, List.flatMap_cons, lines_flatMap_toChars,
    lines_flatMap_toChars, List.append_assoc]

end CutsAt

/-- A text is cut around the same line when there is one more line before it. -/
theorem CutsAt.cons (h : CutsAt content index before l after) {first : Line}
    (hbody : '\n' ∉ first.body) (hending : first.ending ≠ .none) :
    CutsAt (first.toChars ++ content) (index + 1) (first.toChars ++ before) l after := by
  have hlast : first.toChars.getLast? = some '\n' ∧ first.toChars.count '\n' = 1 := by
    have hnone : first.body.count '\n' = 0 := List.count_eq_zero.mpr hbody
    obtain ⟨body, ending⟩ := first
    cases ending with
    | none => exact absurd rfl hending
    | lf => simpa [Line.toChars, LineEnding.toChars] using hnone
    | crlf => simpa [Line.toChars, LineEnding.toChars] using hnone
  obtain ⟨hlast, hcount⟩ := hlast
  refine ⟨?_, EndsLine.append (.inr hlast) h.endsLine, ?_, h.not_mem_lf, h.of_lf, h.of_none⟩
  · rw [h.eq, List.append_assoc, List.append_assoc, List.append_assoc]
  · rw [List.count_append, hcount, h.count_before, Nat.add_comm]

/-- Lines of a text cut it around each of them. -/
theorem AreLines.exists_cutsAt {ls : List Line} (h : AreLines ls) (hl : ls[index]? = some l) :
    ∃ before after, CutsAt (ls.flatMap Line.toChars) index before l after := by
  induction h generalizing index with
  | nil => simp at hl
  | last hne hbody =>
    cases index with
    | zero =>
      obtain rfl : _ = l := by simpa using hl
      exact ⟨[], [], by simp, .inl rfl, rfl, hbody, nofun, fun _ => ⟨hne, rfl⟩⟩
    | succ index => simp at hl
  | @lf body rest hbody hcr hrest ih =>
    cases index with
    | zero =>
      obtain rfl : _ = l := by simpa using hl
      exact ⟨[], rest.flatMap Line.toChars, rfl, .inl rfl, rfl, hbody, fun _ => hcr, nofun⟩
    | succ index =>
      obtain ⟨before, after, hcut⟩ := ih (by simpa using hl)
      exact ⟨_, after, hcut.cons hbody nofun⟩
  | @crlf body rest hbody hrest ih =>
    cases index with
    | zero =>
      obtain rfl : _ = l := by simpa using hl
      exact ⟨[], rest.flatMap Line.toChars, rfl, .inl rfl, rfl, hbody, nofun, nofun⟩
    | succ index =>
      obtain ⟨before, after, hcut⟩ := ih (by simpa using hl)
      exact ⟨_, after, hcut.cons hbody nofun⟩

/-- The lines of a text are what can be pointed out in it. -/
theorem getElem?_lines_eq_some_iff :
    (lines content)[index]? = some l ↔ ∃ before after, CutsAt content index before l after := by
  constructor
  · intro hl
    have hcut := (areLines_lines content).exists_cutsAt hl
    rwa [lines_flatMap_toChars] at hcut
  · rintro ⟨before, after, hcut⟩
    obtain ⟨hlines, hlength⟩ := hcut.lines_eq
    rw [hlines, ← hlength, List.getElem?_append_right (Nat.le_refl _), Nat.sub_self,
      List.getElem?_cons_zero]

end TrackedComments

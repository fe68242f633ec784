import Mathlib.Tactic.Common
import TrackedComments.Text.Lines
import TrackedComments.Text.Space

/-!
# Lists of lines

Not every list of lines is the list of lines of a text: a line without an ending can only be the
last one, and a line feed right after a carriage return belongs to one ending with it. The lists
that are lines of a text are exactly those that come back when they are put together and cut again,
and they stay so when a line gets another body of the same kind.

## Main results

* `areLines_lines`: the lines of a text form such a list.
* `lines_flatMap_of_areLines`: such a list is cut as it was put together.
* `AreLines.set`: a line of such a list may get another body.
-/

namespace TrackedComments

/-- The lists of lines that texts are cut into. -/
inductive AreLines : List Line → Prop where
  | nil : AreLines []
  | last {body : List Char} : body ≠ [] → '\n' ∉ body → AreLines [⟨body, .none⟩]
  | lf {body : List Char} {rest : List Line} : '\n' ∉ body → body.getLast? ≠ some '\r' →
      AreLines rest → AreLines (⟨body, .lf⟩ :: rest)
  | crlf {body : List Char} {rest : List Line} : '\n' ∉ body → AreLines rest →
      AreLines (⟨body, .crlf⟩ :: rest)

/-- Lines stay lines with a further character in front. -/
theorem AreLines.cons {rest : List Line} (h : AreLines rest) (c : Char) :
    AreLines (Line.cons c rest) := by
  unfold Line.cons
  split
  · exact .lf (by simp) (by simp) h
  · rename_i hc
    have hnl {body : List Char} (hbody : '\n' ∉ body) : '\n' ∉ c :: body := by
      simpa [eq_comm, hc] using hbody
    cases h with
    | nil => exact .last (by simp) (hnl (by simp))
    | last hne hbody => simpa using AreLines.last (List.cons_ne_nil c _) (hnl hbody)
    | lf hbody hcr hrest =>
      dsimp only
      split
      · exact .crlf (by simp) hrest
      · rename_i body more hnot
        refine .lf (hnl hbody) ?_ hrest
        cases body with
        | nil => simpa using hnot
        | cons d body => simpa [List.getLast?_cons] using hcr
    | crlf hbody hrest => simpa using AreLines.crlf (hnl hbody) hrest

/-- The lines of a text. -/
theorem areLines_lines (cs : List Char) : AreLines (lines cs) := by
  induction cs with
  | nil => exact .nil
  | cons c cs ih => exact ih.cons c

/-- A line ends at its line feed. -/
theorem lines_append_lf {body : List Char} (hbody : '\n' ∉ body)
    (hcr : body.getLast? ≠ some '\r') (cs : List Char) :
    lines (body ++ '\n' :: cs) = ⟨body, .lf⟩ :: lines cs := by
  induction body with
  | nil => simp [lines_cons, Line.cons]
  | cons c body ih =>
    have hc : c ≠ '\n' := fun hc => hbody (hc ▸ List.mem_cons_self)
    have hrest : body.getLast? ≠ some '\r' := by
      cases body with
      | nil => simp
      | cons d body => simpa [List.getLast?_cons] using hcr
    have hend : ¬ (c = '\r' ∧ body = []) := by
      rintro ⟨rfl, rfl⟩
      simp at hcr
    rw [List.cons_append, lines_cons, ih (fun hmem => hbody (List.mem_cons_of_mem _ hmem)) hrest,
      Line.cons, if_neg hc]
    simp only [and_true, if_neg hend]

/-- A line ends at its carriage return and line feed. -/
theorem lines_append_crlf {body : List Char} (hbody : '\n' ∉ body) (cs : List Char) :
    lines (body ++ '\r' :: '\n' :: cs) = ⟨body, .crlf⟩ :: lines cs := by
  induction body with
  | nil => simp [lines_cons, Line.cons]
  | cons c body ih =>
    have hc : c ≠ '\n' := fun hc => hbody (hc ▸ List.mem_cons_self)
    rw [List.cons_append, lines_cons, ih fun hmem => hbody (List.mem_cons_of_mem _ hmem),
      Line.cons, if_neg hc]
    simp

/-- A text without a line feed is one line. -/
theorem lines_of_not_mem {body : List Char} (hne : body ≠ []) (hbody : '\n' ∉ body) :
    lines body = [⟨body, .none⟩] := by
  induction body with
  | nil => exact absurd rfl hne
  | cons c body ih =>
    have hc : c ≠ '\n' := fun hc => hbody (hc ▸ List.mem_cons_self)
    cases body with
    | nil => simp [lines_cons, Line.cons, hc]
    | cons d body =>
      rw [lines_cons, ih (List.cons_ne_nil d body) fun hmem => hbody (List.mem_cons_of_mem _ hmem),
        Line.cons, if_neg hc]
      simp

/-- Lines of a text are cut as they were put together. -/
theorem lines_flatMap_of_areLines {ls : List Line} (h : AreLines ls) :
    lines (ls.flatMap Line.toChars) = ls := by
  induction h with
  | nil => rfl
  | last hne hbody => simpa [Line.toChars, LineEnding.toChars] using lines_of_not_mem hne hbody
  | lf hbody hcr _ ih =>
    rw [List.flatMap_cons, Line.toChars, LineEnding.toChars, List.append_assoc,
      List.singleton_append, lines_append_lf hbody hcr, ih]
  | crlf hbody _ ih =>
    rw [List.flatMap_cons, Line.toChars, LineEnding.toChars, List.append_assoc, List.cons_append,
      List.singleton_append, lines_append_crlf hbody, ih]

/-- A body that can stand in any line of a text, whatever the line ends in. -/
structure IsLineBody (body : List Char) : Prop where
  ne_nil : body ≠ []
  not_mem_lf : '\n' ∉ body
  getLast?_ne : body.getLast? ≠ some '\r'

/-- A line of a text may get another body. -/
theorem AreLines.set {ls : List Line} (h : AreLines ls) {index : Nat} {l : Line}
    (hl : ls[index]? = some l) {body : List Char} (hbody : IsLineBody body) :
    AreLines (ls.set index { l with body }) := by
  induction h generalizing index with
  | nil => simp at hl
  | last hne hlast =>
    cases index with
    | zero =>
      obtain rfl : _ = l := by simpa using hl
      exact .last hbody.ne_nil hbody.not_mem_lf
    | succ index => simp at hl
  | lf hfirst hcr hrest ih =>
    cases index with
    | zero =>
      obtain rfl : _ = l := by simpa using hl
      exact .lf hbody.not_mem_lf hbody.getLast?_ne hrest
    | succ index => exact .lf hfirst hcr (ih (by simpa using hl))
  | crlf hfirst hrest ih =>
    cases index with
    | zero =>
      obtain rfl : _ = l := by simpa using hl
      exact .crlf hbody.not_mem_lf hrest
    | succ index => exact .crlf hfirst (ih (by simpa using hl))

/-- No line holds a line feed. -/
theorem AreLines.not_mem_lf {ls : List Line} (h : AreLines ls) {l : Line} (hl : l ∈ ls) :
    '\n' ∉ l.body := by
  induction h with
  | nil => simp at hl
  | last _ hbody =>
    obtain rfl := List.mem_singleton.mp hl
    exact hbody
  | lf hbody _ _ ih | crlf hbody _ ih =>
    rcases List.mem_cons.mp hl with rfl | hl
    · exact hbody
    · exact ih hl

end TrackedComments

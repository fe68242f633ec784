import TrackedComments.Pattern.ScanPattern
import TrackedComments.Proofs.Text.Lines

/-!
# Two ways to cut lines

A text can be cut into pieces after its line feeds first, and the ending of each piece be taken off
afterwards. Who has to keep the ending looks for the longest one; who throws it away drops the line
feed first and then one carriage return. Both find the lines that `lines` gives.

## Main results

* `pieces_eq_map_toChars`: the pieces are the lines with their endings.
* `lines_eq_map_ofPiece`: lines with the longest ending of each piece.
* `map_body_lines`: lines without it.
-/

namespace TrackedComments

/-- The pieces of a text: each but perhaps the last has a line feed at its end, and nowhere else. -/
def pieces (cs : List Char) : List (List Char) :=
  cs.foldr
    (fun c rest =>
      if c = '\n' then [c] :: rest
      else match rest with
        | [] => [[c]]
        | piece :: more => (c :: piece) :: more)
    []

/-- The line of a piece, with the longest ending that the piece has. -/
def Line.ofPiece (piece : List Char) : Line :=
  if ['\r', '\n'] <:+ piece then ⟨piece.dropLast.dropLast, .crlf⟩
  else if ['\n'] <:+ piece then ⟨piece.dropLast, .lf⟩
  else ⟨piece, .none⟩

/-- A piece without the line feed at its end and, if there was one, one carriage return before it.
-/
def Line.bodyOf (piece : List Char) : List Char :=
  if piece.getLast? = some '\n' then dropCarriageReturn piece.dropLast else piece

/-! ### Pieces -/

/-- A piece ends with its line feed. -/
theorem pieces_append_lf {body : List Char} (h : '\n' ∉ body) (cs : List Char) :
    pieces (body ++ '\n' :: cs) = (body ++ ['\n']) :: pieces cs := by
  induction body with
  | nil => rfl
  | cons c body ih =>
    have hc : c ≠ '\n' := fun heq => h (heq ▸ List.mem_cons_self)
    have hrest := ih fun hmem => h (List.mem_cons_of_mem c hmem)
    rw [pieces] at hrest ⊢
    rw [List.cons_append, List.foldr_cons, hrest, if_neg hc]
    rfl

/-- A text without a line feed is one piece. -/
theorem pieces_of_not_mem {body : List Char} (hne : body ≠ []) (h : '\n' ∉ body) :
    pieces body = [body] := by
  induction body with
  | nil => exact absurd rfl hne
  | cons c body ih =>
    have hc : c ≠ '\n' := fun heq => h (heq ▸ List.mem_cons_self)
    cases body with
    | nil => exact if_neg hc
    | cons d body =>
      have hrest := ih (List.cons_ne_nil d body) fun hmem => h (List.mem_cons_of_mem c hmem)
      rw [pieces] at hrest ⊢
      rw [List.foldr_cons, hrest, if_neg hc]

/-- The pieces of lines are the lines with their endings. -/
theorem AreLines.pieces {ls : List Line} (h : AreLines ls) :
    pieces (ls.flatMap Line.toChars) = ls.map Line.toChars := by
  induction h with
  | nil => rfl
  | last hne hbody => simpa [Line.toChars, LineEnding.toChars] using pieces_of_not_mem hne hbody
  | @lf body rest hbody hcr hrest ih =>
    have htext : (⟨body, .lf⟩ :: rest : List Line).flatMap Line.toChars =
        body ++ '\n' :: rest.flatMap Line.toChars := by simp [Line.toChars, LineEnding.toChars]
    rw [htext, pieces_append_lf hbody, ih]
    rfl
  | @crlf body rest hbody hrest ih =>
    have htext : (⟨body, .crlf⟩ :: rest : List Line).flatMap Line.toChars =
        (body ++ ['\r']) ++ '\n' :: rest.flatMap Line.toChars := by
      simp [Line.toChars, LineEnding.toChars]
    have hbody' : '\n' ∉ body ++ ['\r'] := by simp [hbody]
    rw [htext, pieces_append_lf hbody', ih]
    simp [Line.toChars, LineEnding.toChars]

/-- The pieces of a text are its lines with their endings. -/
theorem pieces_eq_map_toChars (cs : List Char) : pieces cs = (lines cs).map Line.toChars := by
  have h := (areLines_lines cs).pieces
  rwa [lines_flatMap_toChars] at h

/-! ### Endings -/

/-- The body of a line that ends in a line feed does not end in a carriage return. -/
theorem AreLines.getLast?_ne {ls : List Line} (h : AreLines ls) {l : Line} (hl : l ∈ ls)
    (hlf : l.ending = .lf) : l.body.getLast? ≠ some '\r' := by
  induction h with
  | nil => simp at hl
  | last => simp_all
  | lf hbody hcr hrest ih =>
    rcases List.mem_cons.mp hl with rfl | hl
    · exact hcr
    · exact ih hl
  | crlf hbody hrest ih =>
    rcases List.mem_cons.mp hl with rfl | hl
    · simp at hlf
    · exact ih hl

namespace Line

variable {l : Line}

/-- The longest ending is the one that the line has, if no carriage return is left before a line
feed. -/
theorem ofPiece_toChars (hbody : '\n' ∉ l.body)
    (hcr : l.ending = .lf → l.body.getLast? ≠ some '\r') : ofPiece l.toChars = l := by
  obtain ⟨body, ending⟩ := l
  cases ending with
  | none =>
    have hnot {ending : List Char} (hlf : '\n' ∈ ending) : ¬ ending <:+ body :=
      fun hsuffix => hbody (hsuffix.subset hlf)
    rw [toChars, LineEnding.toChars, List.append_nil, ofPiece, if_neg (hnot (by decide)),
      if_neg (hnot (by decide))]
  | lf =>
    have hnot : ¬ ['\r', '\n'] <:+ body ++ ['\n'] := by
      rintro ⟨before, hbefore⟩
      have hends : (before ++ ['\r']) ++ ['\n'] = body ++ ['\n'] := by
        rw [List.append_assoc]
        exact hbefore
      have hinit := List.append_cancel_right hends
      refine hcr rfl ?_
      rw [← hinit, List.getLast?_concat]
    rw [toChars, LineEnding.toChars, ofPiece, if_neg hnot, if_pos (List.suffix_append _ _),
      List.dropLast_concat]
  | crlf =>
    rw [toChars, LineEnding.toChars, ofPiece, if_pos (List.suffix_append _ _)]
    simp

/-- A line feed and one carriage return before it are all that stands after the body. -/
theorem bodyOf_toChars (hbody : '\n' ∉ l.body)
    (hcr : l.ending = .lf → l.body.getLast? ≠ some '\r') : bodyOf l.toChars = l.body := by
  obtain ⟨body, ending⟩ := l
  cases ending with
  | none =>
    rw [toChars, LineEnding.toChars, List.append_nil, bodyOf, if_neg]
    exact fun hlast => hbody (List.mem_of_getLast? hlast)
  | lf =>
    rw [toChars, LineEnding.toChars, bodyOf, if_pos List.getLast?_concat, List.dropLast_concat,
      dropCarriageReturn, if_neg (hcr rfl)]
  | crlf =>
    have hchars : toChars ⟨body, .crlf⟩ = (body ++ ['\r']) ++ ['\n'] := by
      simp [toChars, LineEnding.toChars]
    rw [hchars, bodyOf, if_pos List.getLast?_concat, List.dropLast_concat, dropCarriageReturn,
      if_pos List.getLast?_concat, List.dropLast_concat]

end Line

/-- The lines of a text, with the longest ending of each piece. -/
theorem lines_eq_map_ofPiece (cs : List Char) : lines cs = (pieces cs).map Line.ofPiece := by
  have hlines := areLines_lines cs
  rw [pieces_eq_map_toChars, List.map_map]
  conv_lhs => rw [← List.map_id (lines cs)]
  exact List.map_congr_left fun l hl =>
    (Line.ofPiece_toChars (hlines.not_mem_lf hl) (hlines.getLast?_ne hl)).symm

/-- The lines of a text without their endings. -/
theorem map_body_lines (cs : List Char) :
    (lines cs).map Line.body = (pieces cs).map Line.bodyOf := by
  have hlines := areLines_lines cs
  rw [pieces_eq_map_toChars, List.map_map]
  exact List.map_congr_left fun l hl =>
    (Line.bodyOf_toChars (hlines.not_mem_lf hl) (hlines.getLast?_ne hl)).symm

end TrackedComments

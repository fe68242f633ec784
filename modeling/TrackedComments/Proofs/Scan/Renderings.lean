import TrackedComments.Proofs.Scan.Content
import TrackedComments.Proofs.Scan.EveryLine

/-!
# Renderings of lines

The same lines can be written in many ways: each may end in a line feed or in a carriage return and
a line feed, with blanks before it, and the last one in nothing. A scan does not see the difference,
because no part of it sees the blanks at the end of a line: they are trimmed from the text, taken
off with the markers before the pattern looks at the line, and have no part in a marker.

## Main results

* `ScanPattern.scanNumbered_trimEnd`: the blanks at the end of a line have no part in its record.
* `Renders.map_trimEnd_lines`: a rendering has the lines that it renders.
* `ScanPattern.scanContent_renderings`: all renderings of lines have the same records.
-/

namespace TrackedComments

/-! ### Blanks at the end of a line -/

namespace ScanPattern

/-- The blanks at the end of a line have no part in its record. -/
theorem scanNumbered_trimEnd (p : ScanPattern) (file : String) (index : Nat) (line : List Char) :
    p.scanNumbered file index (Chars.trimEnd line) = p.scanNumbered file index line := by
  simp only [scanNumbered, scanLine, stripTrailing_dropCarriageReturn, find?_dropCarriageReturn,
    trim_dropCarriageReturn, Marker.stripTrailing_trimEnd, Marker.find?_trimEnd,
    Chars.trim_trimEnd]

/-- The records of a content are those of its lines without the blanks at their ends. -/
theorem scanContent_eq_filterMap_trimEnd (p : ScanPattern) (file content : String) :
    p.scanContent file content =
      ((lines content.toList).map fun l => Chars.trimEnd l.body).zipIdx.filterMap
        fun (body, index) => p.scanNumbered file index body := by
  rw [scanContent, List.zipIdx_map, List.filterMap_map]
  refine List.filterMap_congr fun e _ => ?_
  exact (p.scanNumbered_trimEnd file e.2 e.1.body).symm

end ScanPattern

/-! ### Renderings -/

/-- Whether a text consists of blanks that end no line. -/
def AreBlanks (cs : List Char) : Prop :=
  ∀ c ∈ cs, isSpace c ∧ c ≠ '\n'

instance (cs : List Char) : Decidable (AreBlanks cs) :=
  List.decidableBAll (fun c => isSpace c ∧ c ≠ '\n') cs

/-- The texts that lines with the given bodies can be written as. Blanks may stand before each line
ending, and after the last body, which needs no ending unless it is blank. -/
inductive Renders : List (List Char) → List Char → Prop where
  | nil : Renders [] []
  | last {body blanks : List Char} : '\n' ∉ body → Chars.isBlank body = false →
      AreBlanks blanks → Renders [body] (body ++ blanks)
  | lf {body blanks more : List Char} {bodies : List (List Char)} : '\n' ∉ body →
      AreBlanks blanks → Renders bodies more →
      Renders (body :: bodies) (body ++ blanks ++ '\n' :: more)
  | crlf {body blanks more : List Char} {bodies : List (List Char)} : '\n' ∉ body →
      AreBlanks blanks → Renders bodies more →
      Renders (body :: bodies) (body ++ blanks ++ '\r' :: '\n' :: more)

/-- Blanks at the end of a body are trimmed. -/
theorem AreBlanks.trimEnd_append {blanks : List Char} (h : AreBlanks blanks) (body : List Char) :
    Chars.trimEnd (body ++ blanks) = Chars.trimEnd body :=
  Chars.trimEnd_append_of_isSpace body fun c hc => (h c hc).1

/-- Blanks at the end of a body add no line feed. -/
theorem AreBlanks.not_mem_append {body blanks : List Char} (hbody : '\n' ∉ body)
    (h : AreBlanks blanks) : '\n' ∉ body ++ blanks := by
  intro hmem
  rcases List.mem_append.mp hmem with hmem | hmem
  · exact hbody hmem
  · exact (h _ hmem).2 rfl

/-- A line feed ends a line. A carriage return before it belongs to the ending, whether or not it
was meant as a blank. -/
theorem exists_lines_append_lf {body : List Char} (hbody : '\n' ∉ body) (more : List Char) :
    ∃ l, lines (body ++ '\n' :: more) = l :: lines more ∧
      Chars.trimEnd l.body = Chars.trimEnd body := by
  by_cases hcr : body.getLast? = some '\r'
  · obtain ⟨init, rfl⟩ := List.getLast?_eq_some_iff.mp hcr
    have hinit : '\n' ∉ init := fun hmem => hbody (List.mem_append_left _ hmem)
    refine ⟨⟨init, .crlf⟩, ?_, (Chars.trimEnd_append_of_isSpace init isSpace_carriageReturn).symm⟩
    rw [List.append_assoc, List.singleton_append, lines_append_crlf hinit]
  · exact ⟨⟨body, .lf⟩, lines_append_lf hbody hcr more, rfl⟩

/-- A rendering has the lines that it renders, up to the blanks at their ends. -/
theorem Renders.map_trimEnd_lines {bodies : List (List Char)} {content : List Char}
    (h : Renders bodies content) :
    (lines content).map (fun l => Chars.trimEnd l.body) = bodies.map Chars.trimEnd := by
  induction h with
  | nil => rfl
  | @last body blanks hbody hblank hblanks =>
    have hne : body ++ blanks ≠ [] := by
      rintro hnil
      obtain ⟨rfl, -⟩ := List.append_eq_nil_iff.mp hnil
      simp [Chars.isBlank] at hblank
    rw [lines_of_not_mem hne (hblanks.not_mem_append hbody)]
    simp [hblanks.trimEnd_append]
  | @lf body blanks more bodies hbody hblanks _ ih =>
    obtain ⟨l, hlines, htrim⟩ := exists_lines_append_lf (hblanks.not_mem_append hbody) more
    rw [hlines, List.map_cons, ih, htrim, hblanks.trimEnd_append, List.map_cons]
  | @crlf body blanks more bodies hbody hblanks _ ih =>
    rw [lines_append_crlf (hblanks.not_mem_append hbody), List.map_cons, ih,
      hblanks.trimEnd_append, List.map_cons]

namespace ScanPattern

/-- The records of a rendering are those of the bodies. -/
theorem scanContent_of_renders (p : ScanPattern) (file : String) {bodies : List (List Char)}
    {content : String} (h : Renders bodies content.toList) :
    p.scanContent file content =
      bodies.zipIdx.filterMap fun (body, index) => p.scanNumbered file index body := by
  rw [scanContent_eq_filterMap_trimEnd, h.map_trimEnd_lines, List.zipIdx_map, List.filterMap_map]
  refine List.filterMap_congr fun e _ => ?_
  exact p.scanNumbered_trimEnd file e.2 e.1

/-- All renderings of lines have the same records, namely those that the bodies of the lines give on
their own. -/
theorem scanContent_renderings (p : ScanPattern) (file : String) {bodies : List (List Char)}
    {content other : String} (h : Renders bodies content.toList)
    (h' : Renders bodies other.toList) :
    p.scanContent file content = p.scanContent file other ∧
      ∀ r, r ∈ p.scanContent file content ↔
        ∃ index body, bodies[index]? = some body ∧ p.scanNumbered file index body = some r := by
  have hcontent := p.scanContent_of_renders file h
  refine ⟨hcontent.trans (p.scanContent_of_renders file h').symm, fun r => ?_⟩
  rw [hcontent]
  simp only [List.mem_filterMap, Prod.exists, List.mem_zipIdx_iff_getElem?]
  exact exists_comm

/-- Three lines, of which the second one is empty, written with other endings and blanks. -/
theorem scanContent_renderings_threeLines :
    Renders ["// ERROR: x".toList, [], "y [GH-#3]".toList]
        "// ERROR: x \r\n\t\ny [GH-#3]".toList ∧
      Renders ["// ERROR: x".toList, [], "y [GH-#3]".toList]
        "// ERROR: x\n\r\ny [GH-#3]\u3000\r\n".toList ∧
      everyLine.scanContent "a.ts" "// ERROR: x \r\n\t\ny [GH-#3]" =
        everyLine.scanContent "a.ts" "// ERROR: x\n\r\ny [GH-#3]\u3000\r\n" := by
  have hcontent : Renders ["// ERROR: x".toList, [], "y [GH-#3]".toList]
      ("// ERROR: x".toList ++ [' '] ++ '\r' :: '\n' ::
        ([] ++ ['\t'] ++ '\n' :: ("y [GH-#3]".toList ++ []))) :=
    .crlf (by decide) (by decide) (.lf (by decide) (by decide)
      (.last (by decide) (by decide) (by decide)))
  have hother : Renders ["// ERROR: x".toList, [], "y [GH-#3]".toList]
      ("// ERROR: x".toList ++ [] ++ '\n' ::
        ([] ++ [] ++ '\r' :: '\n' :: ("y [GH-#3]".toList ++ ['\u3000'] ++ '\r' :: '\n' :: []))) :=
    .lf (by decide) (by decide) (.crlf (by decide) (by decide)
      (.crlf (by decide) (by decide) .nil))
  exact ⟨hcontent, hother, (everyLine.scanContent_renderings "a.ts" hcontent hother).1⟩

end ScanPattern

end TrackedComments

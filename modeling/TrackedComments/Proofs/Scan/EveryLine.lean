import TrackedComments.Pattern.ScanPattern
import TrackedComments.Proofs.Pattern.FirstMatch
import TrackedComments.Proofs.Text.Lines

/-!
# A pattern for every line

The pattern of two empty groups matches at the start of any text, and its groups match nothing: it
takes every line for a comment without a message.

## Main results

* `ScanPattern.captures_everyLine`: what the groups of the pattern match.
* `ScanPattern.scanContent_everyLine`: the record of a file of one line.
-/

namespace TrackedComments

open Pattern

namespace ScanPattern

/-- The pattern of two empty groups. -/
def everyLine : ScanPattern :=
  ⟨"()()", .ofRegex (.seq (.group 1 .empty) (.group 2 .empty)) 2⟩

example : ofString "()()" = .ok .everyLine := by rfl

/-- The pattern matches at the start of the text. -/
theorem search_everyLine (text : Array Char) :
    everyLine.program.search text = some #[none, none, some 0, some 0, some 0, some 0] := by
  rw [everyLine, Program.search_ofRegex (by decide), List.range_succ_eq_map, List.findSome?_cons]
  simp only [Regex.first]
  rfl

/-- The pattern matches every text at its beginning. -/
theorem captures_everyLine (text : List Char) :
    everyLine.captures text = some (some [], some []) := by
  rw [captures, search_everyLine]
  simp [Slots.group]

/-- Every line is found, with the number of its marker. -/
theorem scanLine_everyLine (line : List Char) :
    everyLine.scanLine line = some ⟨"", .empty, Marker.find? (dropCarriageReturn line)⟩ := by
  simp only [scanLine, captures_everyLine]
  rfl

end ScanPattern

/-- The record of the first line of a file. -/
def CommentRecord.firstLine (file text : String) : CommentRecord :=
  { file, line := 1, text, message := "", issueNumber := Marker.find? text.toList }

/-- A file of one line, without blanks around it, has one record. -/
theorem ScanPattern.scanContent_everyLine (file : String) {text : String} (hne : text ≠ "")
    (hlf : '\n' ∉ text.toList) (hcr : text.toList.getLast? ≠ some '\r')
    (htrim : Chars.trim text.toList = text.toList) :
    everyLine.scanContent file text = [CommentRecord.firstLine file text] := by
  have hlines : lines text.toList = [⟨text.toList, .none⟩] :=
    lines_of_not_mem (by simpa using hne) hlf
  have hbody : dropCarriageReturn text.toList = text.toList := if_neg hcr
  have hfirst : everyLine.scanNumbered file 0 text.toList =
      some (CommentRecord.firstLine file text) := by
    rw [scanNumbered, scanLine_everyLine, hbody, htrim, String.ofList_toList]
    rfl
  rw [scanContent, hlines]
  simp only [List.zipIdx_cons, List.zipIdx_nil, List.filterMap_cons, hfirst, List.filterMap_nil]

/-- The line in the examples is a comment. -/
theorem ScanPattern.firstLine_mem_scanContent_x (file : String) :
    CommentRecord.firstLine file "x" ∈ everyLine.scanContent file "x" := by
  rw [scanContent_everyLine file (by decide) (by decide) (by decide) (by decide)]
  exact List.mem_singleton_self _

end TrackedComments

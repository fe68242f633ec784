import TrackedComments.Proofs.WriteBack

/-!
# What a scan sees of a write-back

The markers at the end of a line are taken off before a pattern looks at it. So a pattern cannot
tell a line with a marker of its own from the line as it was before: a marker that has been written
shows in the text and in the number of the record of its line, and nowhere else.

## Main results

* `WriteBack.scanContent_of_inserted`: the records of a file before and after its write-back.
-/

namespace TrackedComments.WriteBack

variable {t t' : FileTree} {root file text : String} {line : UInt32} {number : UInt64}
  {expected : Option String}

/-- A marker that has been written changes the text and the number of the record of its line, if
the line has one, and every pattern finds all else as it was. -/
theorem scanContent_of_inserted (hnumber : number ≠ 0)
    (h : insert t root file line number expected = (t', .ok (.inserted text))) :
    ∃ content updated : String,
      t.readText (Path.join root.toList file.toList) = .ok content ∧
      t'.readText (Path.join root.toList file.toList) = .ok updated ∧
      ∀ (p : ScanPattern) (name : String),
        p.scanContent name updated =
          (p.scanContent name content).map fun r =>
            if r.line = line then { r with text, issueNumber := some number } else r := by
  rcases insert_cases h with ⟨-, hnot⟩ | ⟨content, updated, text', hread, hinto, hresult, hnew, -⟩
  · exact absurd rfl (hnot text)
  · obtain rfl : text = text' := by simpa using hresult
    obtain ⟨l, hl, -, hopen, hlines, houtcome⟩ := insertInto_eq_some hinto
    obtain rfl : text = String.ofList (Chars.trim (mark l number).body) := by
      simpa using houtcome
    have hupdated : lines (String.ofList updated).toList =
        (lines content.toList).set (line.toNat - 1) (mark l number) := by
      rw [String.toList_ofList, hlines]
    refine ⟨content, String.ofList updated, hread, hnew, fun p name => ?_⟩
    rw [p.scanContent_of_mark name hl hopen hupdated, if_neg hnumber]

/-- The marker stands before the line ending, with a blank of its own. -/
theorem insertInto_blank_crlf :
    insertInto "// ERROR: x \r\ny".toList 1 7 none =
      .ok (some "// ERROR: x  [GH-#7]\r\ny".toList, .inserted "// ERROR: x  [GH-#7]") := by
  decide +kernel

/-- A marker goes between the blank at the end of the line and the line ending, and no pattern sees
it. -/
theorem scanContent_of_inserted_blank_crlf :
    ∃ t', insert (.single "a.ts" "// ERROR: x \r\ny") "." "a.ts" 1 7 none =
        (t', .ok (.inserted "// ERROR: x  [GH-#7]")) ∧
      ∃ content updated : String,
        (FileTree.single "a.ts" "// ERROR: x \r\ny").readText
          (Path.join ".".toList "a.ts".toList) = .ok content ∧
        t'.readText (Path.join ".".toList "a.ts".toList) = .ok updated ∧
        ∀ (p : ScanPattern) (name : String),
          p.scanContent name updated =
            (p.scanContent name content).map fun r =>
              if r.line = 1 then { r with text := "// ERROR: x  [GH-#7]", issueNumber := some 7 }
              else r := by
  have hread : (FileTree.single "a.ts" "// ERROR: x \r\ny").readText
      (Path.join ".".toList "a.ts".toList) = .ok "// ERROR: x \r\ny" := by
    refine (FileTree.enters_current _).readText FileTree.isPlain_aTs ?_
    rw [FileTree.location_current]
    exact FileTree.get?_single _ _ _ (by simp)
  have htemporary : FileTree.IsPlain (temporaryFile "a.ts") := by
    refine ⟨?_, ?_, ?_⟩ <;> decide +kernel
  have hfree : (FileTree.single "a.ts" "// ERROR: x \r\ny").get? [temporaryFile "a.ts"] ≠
      some .directory := by
    rw [FileTree.get?_single _ _ _ (by simp)]
    split <;> simp
  obtain ⟨t', hinsert⟩ := exists_insert none hread insertInto_blank_crlf
    (exists_replace_current FileTree.isPlain_aTs htemporary hread hfree)
  exact ⟨t', hinsert, scanContent_of_inserted (by decide) hinsert⟩

end TrackedComments.WriteBack

import TrackedComments.Proofs.WriteBack

/-!
# Markers as changes of a file

A marker that is written changes the file as a function of what stood there, whatever line the file
is written for. So markers of different lines may be written in any order, and none of them changes
what another line reads. Whether a marker is written at all depends on its line and on the
directories, not on the rest of the file.

## Main results

* `WriteBack.markLine_comm`, `WriteBack.markNode_comm`: markers of different lines commute.
* `WriteBack.lineAt_markLine`: a marker leaves the other lines as they read.
* `WriteBack.insert_congr`: a marker is written into every file with the same line.
-/

namespace TrackedComments

/-- The text that a file holds. -/
def Node.text? : Node → Option String
  | .file content => String.fromUTF8? content
  | .directory => none

/-- A node holds a text if it is a file with the bytes of the text. -/
theorem Node.text?_eq_some_iff {node : Node} {text : String} :
    node.text? = some text ↔ node = .file text.toUTF8 := by
  cases node with
  | file content => simp [text?, fromUTF8?_eq_some_iff]
  | directory => simp [text?]

/-- A path is read if it leads to a file with a text. -/
theorem FileTree.readText_eq_ok_iff_text? {t : FileTree} {path : List Char} {text : String} :
    t.readText path = .ok text ↔
      t.locate path = .ok (Path.location path) ∧
        (t.get? (Path.location path)).bind Node.text? = some text := by
  rw [readText_eq_ok_iff, read_eq_ok_iff, Option.bind_eq_some_iff]
  simp only [Node.text?_eq_some_iff, exists_eq_right]

namespace WriteBack

variable {content : List Char} {line other : UInt32} {number othersNumber : UInt64}

/-! ### Contents -/

/-- A content with a marker at the end of one line, if it has that line. -/
def markLine (line : UInt32) (number : UInt64) (content : List Char) : List Char :=
  ((lines content).modify (line.toNat - 1) (mark · number)).flatMap Line.toChars

/-- A marker changes one line of a content. -/
theorem lines_markLine (line : UInt32) (number : UInt64) (content : List Char) :
    lines (markLine line number content) =
      (lines content).modify (line.toNat - 1) (mark · number) := by
  have hlines := areLines_lines content
  rw [markLine, List.modify_eq_set_getElem?]
  cases hl : (lines content)[line.toNat - 1]? with
  | none => exact congrArg lines (lines_flatMap_toChars content)
  | some l =>
    have hbody := isLineBody_mark (hlines.not_mem_lf (List.mem_of_getElem? hl)) number
    exact lines_flatMap_of_areLines (hlines.set hl hbody)

/-- Markers of different lines commute. -/
theorem markLine_comm (hne : line.toNat - 1 ≠ other.toNat - 1) (content : List Char) :
    markLine line number (markLine other othersNumber content) =
      markLine other othersNumber (markLine line number content) := by
  rw [markLine, lines_markLine, markLine, lines_markLine, List.modify_modify_ne _ _ _ hne.symm]

/-- A marker leaves the other lines as they read. -/
theorem lineAt_markLine (hne : line.toNat - 1 ≠ other.toNat - 1) (content : List Char) :
    lineAt (lines (markLine line number content)) other = lineAt (lines content) other := by
  rw [lines_markLine]
  unfold lineAt
  rw [List.length_modify]
  split
  · rfl
  · rename_i index hindex
    have hline : line.toNat - 1 ≠ index := by omega
    rw [List.getElem?_modify_ne _ _ hline]

/-- An edit that has been made has put a marker at the end of the line. -/
theorem insertInto_eq_markLine {updated : List Char} {expected : Option (List Char)}
    {outcome : WriteBackOutcome}
    (h : insertInto content line number expected = .ok (some updated, outcome)) :
    updated = markLine line number content := by
  obtain ⟨l, hl, -, -, hlines, -⟩ := insertInto_eq_some h
  obtain ⟨index, hline, hindex⟩ := lineAt_eq_ok_iff.mp hl
  rw [hline, Nat.add_sub_cancel] at hlines
  rw [← lines_flatMap_toChars updated, hlines, markLine, List.modify_eq_set_getElem?, hline,
    Nat.add_sub_cancel, hindex]
  rfl

/-- A line gets its marker if it reads as expected and holds no beginning of a marker. -/
theorem insertInto_of_lineAt (number : UInt64) {expected : Option (List Char)} {l : Line}
    (hl : lineAt (lines content) line = .ok l)
    (hexpected : ∀ text ∈ expected, text = Chars.trim l.body)
    (hopen : Marker.isOpenedIn l.body = false) :
    ∃ updated, insertInto content line number expected =
      .ok (some updated, .inserted (String.ofList (Chars.trim (mark l number).body))) := by
  have hnot : ¬ expected.any (· != Chars.trim l.body) := by
    cases expected with
    | none => simp
    | some text => simpa using hexpected text rfl
  unfold insertInto
  simp only [hl, bind, Except.bind, if_neg hnot, hopen, Bool.false_eq_true, if_false]
  exact ⟨_, rfl⟩

/-! ### Files -/

/-- What stands in the place of a file after a marker has been written into it. -/
def markNode (line : UInt32) (number : UInt64) (node : Node) : Node :=
  match node.text? with
  | some text => .file (String.ofList (markLine line number text.toList)).toUTF8
  | none => node

/-- A file with a text holds the text with the marker afterwards. -/
theorem markNode_file (line : UInt32) (number : UInt64) (text : String) :
    markNode line number (.file text.toUTF8) =
      .file (String.ofList (markLine line number text.toList)).toUTF8 := by
  rw [markNode, Node.text?_eq_some_iff.mpr rfl]

/-- The text after a marker is the text before it with the marker. -/
theorem text?_markNode (line : UInt32) (number : UInt64) (node : Node) :
    (markNode line number node).text? =
      node.text?.map fun text => String.ofList (markLine line number text.toList) := by
  cases htext : node.text? with
  | none => rw [markNode, htext, htext, Option.map_none]
  | some text =>
    rw [Node.text?_eq_some_iff.mp htext, markNode_file, Option.map_some,
      Node.text?_eq_some_iff.mpr rfl]

/-- Markers of different lines of a file commute. -/
theorem markNode_comm (hne : line.toNat - 1 ≠ other.toNat - 1) (node : Node) :
    markNode line number (markNode other othersNumber node) =
      markNode other othersNumber (markNode line number node) := by
  cases htext : node.text? with
  | none =>
    have hsame (line : UInt32) (number : UInt64) : markNode line number node = node := by
      rw [markNode, htext]
    rw [hsame, hsame, hsame]
  | some text =>
    rw [Node.text?_eq_some_iff.mp htext, markNode_file, markNode_file, markNode_file,
      markNode_file, String.toList_ofList, String.toList_ofList, markLine_comm hne]

/-! ### Write-backs -/

variable {t t' u : FileTree} {root file text : String}

/-- A file is replaced whenever it can be read and its directories are the same. -/
theorem exists_replace_of_directories {path : List Char} {old : ByteArray}
    {updated updated' : String}
    (hdirs : ∀ loc, t'.get? loc = some .directory ↔ t.get? loc = some .directory)
    (hread : t'.read path = .ok old) (h : replace t path updated = (u, .ok ())) :
    ∃ u', replace t' path updated' = (u', .ok ()) := by
  unfold replace at h
  dsimp only at h
  split at h
  · simp at h
  · rename_i hwrite
    obtain ⟨hlocate, hfree, -⟩ := FileTree.write_eq_ok hwrite
    exact exists_replace hread (FileTree.locate_of_directories (fun loc => (hdirs loc).mpr) hlocate)
      (mt (hdirs _).mp hfree)

/-- A marker that has been written has replaced the file. -/
theorem replace_of_insert {expected : Option String}
    (h : insert t root file line number expected = (u, .ok (.inserted text))) :
    ∃ content updated, t.readText (Path.join root.toList file.toList) = .ok content ∧
      insertInto content.toList line number (expected.map String.toList) =
        .ok (some updated, .inserted text) ∧
      replace t (Path.join root.toList file.toList) (String.ofList updated) = (u, .ok ()) := by
  cases insert_eq_iff.mp h with
  | spared _ hinto =>
    obtain ⟨-, -, -, -, houtcome⟩ := insertInto_eq_none hinto
    simp at houtcome
  | written hread hinto hreplace => exact ⟨_, _, hread, hinto, hreplace⟩

/-- Whether a file has a certain line under a number. -/
def LineIs (t : FileTree) (root file : String) (line : UInt32) (l : Line) : Prop :=
  ∃ content, t.readText (Path.join root.toList file.toList) = .ok content ∧
    lineAt (lines content.toList) line = .ok l

/-- What is read of a line is the text of the line that the file has. -/
theorem readLine_eq_ok_iff_lineIs :
    readLine t root file line = .ok text ↔
      ∃ l, LineIs t root file line l ∧ text = String.ofList (Chars.trim l.body) := by
  simp only [readLine_eq_ok_iff, LineIs]
  exact ⟨fun ⟨content, l, hread, hl, htext⟩ => ⟨l, ⟨content, hread, hl⟩, htext⟩,
    fun ⟨l, ⟨content, hread, hl⟩, htext⟩ => ⟨content, l, hread, hl, htext⟩⟩

/-- A marker is written whenever its line reads the same and its directories are the same. -/
theorem insert_congr {expected : Option String} {l : Line} (hl : LineIs t root file line l)
    (hl' : LineIs t' root file line l)
    (hdirs : ∀ loc, t'.get? loc = some .directory ↔ t.get? loc = some .directory)
    (h : insert t root file line number expected = (u, .ok (.inserted text))) :
    ∃ u', insert t' root file line number expected = (u', .ok (.inserted text)) := by
  obtain ⟨content, updated, hread, hinto, hreplace⟩ := replace_of_insert h
  obtain ⟨k, hk, hexpected, hopen, -, houtcome⟩ := insertInto_eq_some hinto
  obtain ⟨content₁, hread₁, hl⟩ := hl
  obtain rfl : content = content₁ := Except.ok.inj (hread.symm.trans hread₁)
  obtain rfl : k = l := Except.ok.inj (hk.symm.trans hl)
  obtain ⟨content', hread', hl'⟩ := hl'
  obtain ⟨updated', hinto'⟩ := insertInto_of_lineAt number hl' hexpected hopen
  rw [← houtcome] at hinto'
  exact exists_insert expected hread' hinto' (exists_replace_of_directories
    hdirs (FileTree.readText_eq_ok_iff.mp hread') hreplace)

/-- A file has a line if its path leads there and the line is one of its text. -/
theorem lineIs_iff_text? {l : Line} :
    LineIs t root file line l ↔
      t.locate (Path.join root.toList file.toList) =
          .ok (Path.location (Path.join root.toList file.toList)) ∧
        ∃ content, (t.get? (Path.location (Path.join root.toList file.toList))).bind Node.text? =
            some content ∧ lineAt (lines content.toList) line = .ok l := by
  simp only [LineIs, FileTree.readText_eq_ok_iff_text?, and_assoc, exists_and_left]

section Kept

variable (hdirs : ∀ loc, t'.get? loc = some .directory ↔ t.get? loc = some .directory)

include hdirs

/-- A path leads to the same place if the directories are the same. -/
theorem locate_eq_ok_iff_of_directories {path : List Char} {loc : Location} :
    t'.locate path = .ok loc ↔ t.locate path = .ok loc :=
  ⟨FileTree.locate_of_directories fun loc => (hdirs loc).mp,
    FileTree.locate_of_directories fun loc => (hdirs loc).mpr⟩

/-- A file that has not been touched has the lines that it had. -/
theorem lineIs_iff_of_get?_eq {l : Line}
    (h : t'.get? (Path.location (Path.join root.toList file.toList)) =
      t.get? (Path.location (Path.join root.toList file.toList))) :
    LineIs t' root file line l ↔ LineIs t root file line l := by
  rw [lineIs_iff_text?, lineIs_iff_text?, locate_eq_ok_iff_of_directories hdirs, h]

/-- A file in which another line has been marked has the line that it had. -/
theorem lineIs_iff_of_markNode {l : Line} (hne : line.toNat - 1 ≠ other.toNat - 1)
    (h : t'.get? (Path.location (Path.join root.toList file.toList)) =
      (t.get? (Path.location (Path.join root.toList file.toList))).map (markNode line number)) :
    LineIs t' root file other l ↔ LineIs t root file other l := by
  have htext : ((t.get? (Path.location (Path.join root.toList file.toList))).map
      (markNode line number)).bind Node.text? =
      ((t.get? (Path.location (Path.join root.toList file.toList))).bind Node.text?).map
        fun text => String.ofList (markLine line number text.toList) := by
    cases t.get? (Path.location (Path.join root.toList file.toList)) with
    | none => rfl
    | some node => exact text?_markNode line number node
  rw [lineIs_iff_text?, lineIs_iff_text?, locate_eq_ok_iff_of_directories hdirs, h, htext]
  refine and_congr_right fun _ => ?_
  simp only [Option.map_eq_some_iff, exists_exists_and_eq_and, String.toList_ofList,
    lineAt_markLine hne]

end Kept

end WriteBack

end TrackedComments

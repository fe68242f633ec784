import TrackedComments.Proofs.FileTree.Contents
import TrackedComments.Proofs.Text.Cuts
import TrackedComments.Proofs.WriteBack.Marks

/-!
# What an insertion leaves behind

An insertion that succeeds has put the marker before the ending of the line and has left all other
characters where they were. From then on the line counts as marked, so that the marker is not put in
twice. An insertion that does not succeed has left the file alone: the new content has gone into the
temporary file, in pieces, and the temporary file is moved over the file when it is complete.

The system may break off each of the steps for reasons that a tree of files does not show.

## Main results

* `WriteBack.exists_prepared_of_replace`: a replacement prepares the temporary file and moves it.
* `WriteBack.leaves_of_attempt`: what each way to end leaves behind.
-/

namespace TrackedComments.WriteBack

open FileTree

variable {t t' : FileTree} {path : List Char} {content : ByteArray} {written : Nat}

/-! ### Steps of a replacement -/

/-- The trees that come up while a content is prepared in the temporary file, some bytes of which
have been written. -/
inductive Prepared (t : FileTree) (path : List Char) (content : ByteArray) :
    Nat → FileTree → Prop where
  | opened {t' : FileTree} : t.write (temporaryPath path) ByteArray.empty = .ok t' →
      Prepared t path content 0 t'
  | wrote {written count : Nat} {t' : FileTree} : Prepared t path content written t' →
      written + count ≤ content.size →
      Prepared t path content (written + count)
        (t'.writeAt (Path.location (temporaryPath path)) written
          (content.extract written (written + count)))

namespace Prepared

/-- The temporary file holds what has been written so far. -/
theorem contentAt?_eq (h : Prepared t path content written t') :
    t'.contentAt? (Path.location (temporaryPath path)) = some (content.extract 0 written) := by
  induction h with
  | opened hwrite =>
    rw [contentAt?_of_read (read_of_write hwrite), ByteArray.extract_same]
  | wrote _ hcount ih => exact contentAt?_writeAt ih hcount

/-- Nothing but the temporary file is touched. -/
theorem changesOnly (h : Prepared t path content written t') :
    t.ChangesOnly [Path.location (temporaryPath path)] t' := by
  induction h with
  | opened hwrite => exact changesOnly_write hwrite
  | wrote _ _ ih => exact ih.trans (changesOnly_writeAt _ _ _ _)

/-- A tree stays well named. -/
theorem wellNamed (h : Prepared t path content written t') (hnamed : t.WellNamed) :
    t'.WellNamed := by
  induction h with
  | opened hwrite => exact hnamed.write hwrite
  | wrote _ _ ih => exact ih.writeAt _ _ _

/-- A file that can be read stays as it is. -/
theorem get?_eq (h : Prepared t path content written t') {old : ByteArray}
    (hread : t.read path = .ok old) :
    t'.get? (Path.location path) = t.get? (Path.location path) ∧ t'.read path = t.read path := by
  have hne : Path.location path ∉ [Path.location (temporaryPath path)] := by
    rw [List.mem_singleton]
    exact (location_temporaryPath_ne hread).symm
  exact ⟨h.changesOnly.get?_eq _ hne, (h.changesOnly.read hne hread).trans hread.symm⟩

end Prepared

/-- A replacement that succeeds has prepared the whole content and moved it into place. -/
theorem exists_prepared_of_replace {updated : String}
    (h : replace t path updated = (t', .ok ())) :
    ∃ t₁, Prepared t path updated.toUTF8 updated.toUTF8.size t₁ ∧
      t₁.rename (temporaryPath path) path = .ok t' := by
  unfold replace at h
  dsimp only at h
  split at h
  · simp at h
  · rename_i t₁ hwrite
    split at h
    · simp at h
    · rename_i t₂ hrename
      obtain ⟨rfl, -⟩ := Prod.mk.inj h
      obtain ⟨hlocate, hfree, rfl⟩ := write_eq_ok hwrite
      have hopened : Prepared t path updated.toUTF8 0 _ := .opened (write_of_locate hlocate hfree)
      have hempty := hopened.contentAt?_eq
      rw [ByteArray.extract_same] at hempty
      have hwrote := hopened.wrote (Nat.le_of_eq (Nat.zero_add _))
      rw [writeAt_of_empty hempty, set_set, Nat.zero_add] at hwrote
      exact ⟨_, hwrote, hrename⟩

/-! ### Lines that count as marked -/

variable {root file text : String} {line : UInt32} {number : UInt64} {expected : Option String}
  {result : Except WriteBackFault WriteBackOutcome} {l : Line}

/-- A line with a marker holds the beginning of one. -/
theorem isOpenedIn_mark (l : Line) (number : UInt64) : Marker.isOpenedIn (mark l number).body := by
  rw [Marker.isOpenedIn_iff, mark, ← List.singleton_append, ← List.append_assoc]
  exact (Marker.opening_isInfix_format number).trans (List.suffix_append _ _).isInfix

/-- A line that holds the beginning of a marker is left alone if it reads as expected. -/
theorem insert_of_isOpenedIn (hl : LineIs t root file line l)
    (hexpected : ∀ text ∈ expected, text = String.ofList (Chars.trim l.body))
    (hopen : Marker.isOpenedIn l.body) (number : UInt64) :
    insert t root file line number expected = (t, .ok .alreadyMarked) := by
  obtain ⟨content, hread, hl⟩ := hl
  have hnot : ¬ (expected.map String.toList).any (· != Chars.trim l.body) := by
    cases expected with
    | none => simp
    | some text => simp [hexpected text rfl]
  have hinto : insertInto content.toList line number (expected.map String.toList) =
      .ok (none, .alreadyMarked) := by
    unfold insertInto
    simp only [hl, bind, Except.bind, if_neg hnot, hopen, if_true]
  exact insert_eq_iff.mpr (.spared hread hinto)

/-- A line is left alone for no other reason. -/
theorem isOpenedIn_of_insert
    (h : insert t root file line number expected = (t', .ok .alreadyMarked)) :
    t' = t ∧ ∃ l, LineIs t root file line l ∧ Marker.isOpenedIn l.body := by
  cases insert_eq_iff.mp h with
  | spared hread hinto =>
    obtain ⟨l, hl, -, hopen, -⟩ := insertInto_eq_none hinto
    exact ⟨rfl, l, ⟨_, hread, hl⟩, hopen⟩
  | written _ hinto =>
    obtain ⟨_, -, -, -, -, houtcome⟩ := insertInto_eq_some hinto
    simp at houtcome

/-! ### Attempts -/

/-- The path of a file below a root. -/
def pathOfFile (root file : String) : List Char :=
  Path.join root.toList file.toList

/-- The ways in which an attempt to insert a marker can end, with the tree that is left. -/
inductive Attempt (t : FileTree) (root file : String) (line : UInt32) (number : UInt64)
    (expected : Option String) : FileTree → Except WriteBackFault WriteBackOutcome → Prop where
  /-- The system does all that the tree lets it do. -/
  | done {t' : FileTree} {result : Except WriteBackFault WriteBackOutcome} :
      insert t root file line number expected = (t', result) →
      Attempt t root file line number expected t' result
  /-- The file has not been read, or the temporary file has not been created. -/
  | notBegun (fault : WriteBackFault) : Attempt t root file line number expected t (.error fault)
  /-- The new content has not been written as a whole, or has not been moved over the file. -/
  | brokenOff {content : String} {updated : List Char} {outcome : WriteBackOutcome}
      {written : Nat} {t' : FileTree} (fault : WriteBackFault) :
      t.readText (pathOfFile root file) = .ok content →
      insertInto content.toList line number (expected.map String.toList) =
        .ok (some updated, outcome) →
      Prepared t (pathOfFile root file) (String.ofList updated).toUTF8 written t' →
      Attempt t root file line number expected t' (.error fault)

/-- What an insertion that succeeds leaves behind, with the line as it reads now. -/
structure MarkedAs (t : FileTree) (root file : String) (line : UInt32) (number : UInt64)
    (t' : FileTree) (text : String) : Prop where
  /-- The marker stands before the ending of the line, and all else is as it was. -/
  content : ∃ (content : String) (index : Nat) (before : List Char) (l : Line) (after : List Char),
    t.readText (pathOfFile root file) = .ok content ∧ line.toNat = index + 1 ∧
    CutsAt content.toList index before l after ∧
    t'.readText (pathOfFile root file) = .ok (String.ofList
      (before ++ (l.body ++ ' ' :: Marker.format number ++ l.ending.toChars) ++ after))
  reads : readLine t' root file line = .ok text
  /-- No further marker is put in, whatever its number, if the line may read as it does. -/
  again : ∀ (number : UInt64) (expected : Option String), (∀ text' ∈ expected, text' = text) →
    insert t' root file line number expected = (t', .ok .alreadyMarked)

/-- What an attempt has to leave behind, by how it ends. -/
def Leaves (t : FileTree) (root file : String) (line : UInt32) (number : UInt64) (t' : FileTree) :
    Except WriteBackFault WriteBackOutcome → Prop
  | .ok (.inserted text) => MarkedAs t root file line number t' text
  | .ok .alreadyMarked => t' = t ∧
    ∃ (content : String) (index : Nat) (before : List Char) (l : Line) (after : List Char),
      t.readText (pathOfFile root file) = .ok content ∧ line.toNat = index + 1 ∧
      CutsAt content.toList index before l after ∧ Marker.opening <:+: l.body
  | .error _ =>
    t'.get? (Path.location (pathOfFile root file)) =
        t.get? (Path.location (pathOfFile root file)) ∧
      t'.read (pathOfFile root file) = t.read (pathOfFile root file)

/-- A content can be cut around each of its lines. -/
theorem exists_cutsAt_of_lineAt {content : List Char} (hl : lineAt (lines content) line = .ok l) :
    ∃ index before after, line.toNat = index + 1 ∧ CutsAt content index before l after := by
  obtain ⟨index, hline, hindex⟩ := lineAt_eq_ok_iff.mp hl
  obtain ⟨before, after, hcut⟩ := getElem?_lines_eq_some_iff.mp hindex
  exact ⟨index, before, after, hline, hcut⟩

/-- A marker that has been put in stands where it should. -/
theorem markedAs_of_insert
    (h : insert t root file line number expected = (t', .ok (.inserted text))) :
    MarkedAs t root file line number t' text := by
  rcases insert_cases h with ⟨-, hnot⟩ | ⟨content, updated, text', hread, hinto, hresult, hnew, -⟩
  · exact absurd rfl (hnot text)
  · obtain rfl : text = text' := by simpa using hresult
    obtain ⟨l, hl, -, -, hlines, houtcome⟩ := insertInto_eq_some hinto
    obtain rfl : text = String.ofList (Chars.trim (mark l number).body) := by
      simpa using houtcome
    obtain ⟨index, before, after, hline, hcut⟩ := exists_cutsAt_of_lineAt hl
    rw [hline, Nat.add_sub_cancel] at hlines
    have hupdated : updated = before ++ (mark l number).toChars ++ after := by
      rw [← lines_flatMap_toChars updated, hlines, hcut.flatMap_set]
    have hmarked : LineIs t' root file line (mark l number) := by
      refine ⟨_, hnew, lineAt_eq_ok_iff.mpr ⟨index, hline, ?_⟩⟩
      have hlength := (List.getElem?_eq_some_iff.mp
        (getElem?_lines_eq_some_iff.mpr ⟨before, after, hcut⟩)).1
      rw [String.toList_ofList, hlines, List.getElem?_set_self hlength]
    refine ⟨⟨content, index, before, l, after, hread, hline, hcut, ?_⟩, ?_, ?_⟩
    · rw [hupdated] at hnew
      exact hnew
    · exact readLine_eq_ok_iff_lineIs.mpr ⟨mark l number, hmarked, rfl⟩
    · intro number' expected' hexpected
      exact insert_of_isOpenedIn hmarked hexpected (isOpenedIn_mark l number) number'

/-- An attempt touches no file but its own and the temporary file beside it. -/
theorem changesOnly_of_attempt (h : Attempt t root file line number expected t' result) :
    t.ChangesOnly [Path.location (pathOfFile root file),
      temporaryNames (Path.location (pathOfFile root file))] t' := by
  cases h with
  | done h =>
    rcases insert_cases h with ⟨rfl, -⟩ | ⟨content, _, _, hread, -, -, -, -, hframe, -⟩
    · exact .refl _ _
    · rw [location_temporaryPath_of_read (readText_eq_ok_iff.mp hread)] at hframe
      exact hframe.mono (by simp [pathOfFile])
  | notBegun => exact .refl _ _
  | brokenOff _ hread _ hprepared =>
    have hframe := hprepared.changesOnly
    rw [location_temporaryPath_of_read (readText_eq_ok_iff.mp hread)] at hframe
    exact hframe.mono (by simp)

/-- What each attempt leaves behind. It touches no file but its own and the temporary file beside
it. If the marker has been inserted, it stands before the ending of the line, and the file is as it
was before and after it; from then on the line reads with the marker and gets no other one. If the
line was marked already, it holds the beginning of a marker and nothing has changed. If the attempt
has failed, the file is as it was. -/
theorem leaves_of_attempt (h : Attempt t root file line number expected t' result) :
    t.ChangesOnly [Path.location (pathOfFile root file),
        temporaryNames (Path.location (pathOfFile root file))] t' ∧
      Leaves t root file line number t' result := by
  refine ⟨changesOnly_of_attempt h, ?_⟩
  cases h with
  | done h =>
    rcases result with fault | (text | -)
    · rcases insert_cases h with ⟨rfl, -⟩ | ⟨_, _, _, -, -, hresult, -⟩
      · exact ⟨rfl, rfl⟩
      · simp at hresult
    · exact markedAs_of_insert h
    · obtain ⟨rfl, l, ⟨content, hread, hl⟩, hopen⟩ := isOpenedIn_of_insert h
      obtain ⟨index, before, after, hline, hcut⟩ := exists_cutsAt_of_lineAt hl
      exact ⟨rfl, content, index, before, l, after, hread, hline, hcut,
        Marker.isOpenedIn_iff.mp hopen⟩
  | notBegun => exact ⟨rfl, rfl⟩
  | brokenOff _ hread _ hprepared => exact hprepared.get?_eq (readText_eq_ok_iff.mp hread)

/-! ### A line without an ending -/

/-- A marker that a line of the only file has room for is inserted. -/
theorem exists_insert_single {name content : String} {updated : List Char} (hname : IsPlain name)
    (htemporary : IsPlain (temporaryFile name))
    (hinto : insertInto content.toList line number (expected.map String.toList) =
      .ok (some updated, .inserted text)) :
    ∃ t', insert (.single name content) "." name line number expected =
      (t', .ok (.inserted text)) := by
  have hread := readText_single hname content
  have hfree : (single name content).get? [temporaryFile name] ≠ some .directory := by
    rw [get?_single _ _ _ (by simp)]
    split <;> simp
  exact exists_insert expected hread hinto
    (exists_replace_current hname htemporary hread hfree)

/-- The last line of a text needs no ending to be marked. If the system does not move the new
content over the file, the file is as it was. -/
theorem leaves_of_attempt_lastLine :
    ∃ t₁ t₂, Attempt (.single "a.ts" "x\ny") "." "a.ts" 2 7 (some "y") t₁
        (.ok (.inserted "y [GH-#7]")) ∧
      MarkedAs (.single "a.ts" "x\ny") "." "a.ts" 2 7 t₁ "y [GH-#7]" ∧
      Attempt (.single "a.ts" "x\ny") "." "a.ts" 2 7 (some "y") t₂
        (.error (.unwritable .notFound)) ∧
      t₂.read (pathOfFile "." "a.ts") =
        (FileTree.single "a.ts" "x\ny").read (pathOfFile "." "a.ts") := by
  have hinto : insertInto "x\ny".toList 2 7 ((some "y").map String.toList) =
      .ok (some "x\ny [GH-#7]".toList, .inserted "y [GH-#7]") := by
    decide +kernel
  have htemporary : IsPlain (temporaryFile "a.ts") := by
    refine ⟨?_, ?_, ?_⟩ <;> decide +kernel
  obtain ⟨t₁, hinsert⟩ := exists_insert_single isPlain_aTs htemporary hinto
  obtain ⟨content, updated, hread, hinto, hreplace⟩ := replace_of_insert hinsert
  obtain ⟨t₂, hprepared, -⟩ := exists_prepared_of_replace hreplace
  have hdone := Attempt.done hinsert
  have hbroken := Attempt.brokenOff (.unwritable .notFound) hread hinto hprepared
  exact ⟨t₁, t₂, hdone, (leaves_of_attempt hdone).2, hbroken, (leaves_of_attempt hbroken).2.2⟩

end TrackedComments.WriteBack

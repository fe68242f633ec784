import TrackedComments.Proofs.FileTree.Texts
import TrackedComments.Proofs.Scan.Content

/-!
# What a write-back does to the files

As far as the tree of files decides it, a marker is written or nothing happens at all: once the
temporary file has been written, the tree lets it be moved over the source file. Whether the marker
is written or not, only the source file and its temporary file are touched, and the temporary file
does not outlive the write-back.

## Main results

* `WriteBack.insertInto_eq_some`, `WriteBack.insertInto_eq_none`: the two ways in which an edit of a
  content succeeds.
* `WriteBack.insert_eq_iff`: the ways in which a write-back can go.
* `WriteBack.insert_cases`: a write-back inserts the marker, or leaves the tree as it was.
* `WriteBack.location_temporaryPath`: where the temporary file stands.
-/

namespace TrackedComments.WriteBack

/-! ### Edits of a content -/

/-- A line with a marker is a line. -/
theorem isLineBody_mark {l : Line} (h : '\n' ∉ l.body) (number : UInt64) :
    IsLineBody (mark l number).body := by
  have hdigits : '\n' ∉ number.toNat.repr.toList := fun hmem =>
    absurd (Marker.isDigit_of_mem_repr hmem) (by decide)
  refine ⟨by simp [mark], ?_, by simp [getLast?_mark]⟩
  simp only [mark, Marker.format, Marker.opening, List.mem_append, List.mem_cons, not_or]
  exact ⟨h, by decide, ⟨by decide, hdigits⟩, by decide⟩

/-- A line that is not refused reads as expected, if anything is expected. -/
theorem forall_mem_of_not_any_ne {expected : Option (List Char)} {body : List Char}
    (h : ¬ expected.any (· != body)) : ∀ text ∈ expected, text = body := by
  intro text htext
  rw [Option.mem_def.mp htext] at h
  simpa using h

/-- An edit with a new content has marked the line, which held no beginning of a marker. -/
theorem insertInto_eq_some {content updated : List Char} {line : UInt32} {number : UInt64}
    {expected : Option (List Char)} {outcome : WriteBackOutcome}
    (h : insertInto content line number expected = .ok (some updated, outcome)) :
    ∃ l, lineAt (lines content) line = .ok l ∧ (∀ text ∈ expected, text = Chars.trim l.body) ∧
      Marker.isOpenedIn l.body = false ∧
      lines updated = (lines content).set (line.toNat - 1) (mark l number) ∧
      outcome = .inserted (String.ofList (Chars.trim (mark l number).body)) := by
  unfold insertInto at h
  cases hl : lineAt (lines content) line with
  | error fault => simp [hl, bind, Except.bind] at h
  | ok l =>
    simp only [hl, bind, Except.bind] at h
    split at h
    · simp at h
    · rename_i hexpected
      split at h
      · simp at h
      · rename_i hopen
        obtain ⟨hupdated, rfl⟩ := Prod.mk.inj (Except.ok.inj h)
        obtain rfl := Option.some.inj hupdated
        obtain ⟨index, hline, hindex⟩ := lineAt_eq_ok_iff.mp hl
        have hlines := areLines_lines content
        have hbody := isLineBody_mark (hlines.not_mem_lf (List.mem_of_getElem? hindex)) number
        refine ⟨l, rfl, forall_mem_of_not_any_ne hexpected, by simpa using hopen, ?_, rfl⟩
        · rw [hline, Nat.add_sub_cancel]
          exact lines_flatMap_of_areLines (hlines.set hindex hbody)

/-- An edit without a new content has found the beginning of a marker. -/
theorem insertInto_eq_none {content : List Char} {line : UInt32} {number : UInt64}
    {expected : Option (List Char)} {outcome : WriteBackOutcome}
    (h : insertInto content line number expected = .ok (none, outcome)) :
    ∃ l, lineAt (lines content) line = .ok l ∧ (∀ text ∈ expected, text = Chars.trim l.body) ∧
      Marker.isOpenedIn l.body ∧ outcome = .alreadyMarked := by
  unfold insertInto at h
  cases hl : lineAt (lines content) line with
  | error fault => simp [hl, bind, Except.bind] at h
  | ok l =>
    simp only [hl, bind, Except.bind] at h
    split at h
    · simp at h
    · rename_i hexpected
      split at h
      · rename_i hopen
        obtain ⟨-, rfl⟩ := Prod.mk.inj (Except.ok.inj h)
        exact ⟨l, rfl, forall_mem_of_not_any_ne hexpected, hopen, rfl⟩
      · simp at h

/-! ### The temporary file -/

/-- The name of a temporary file is a proper name. -/
theorem isName_temporaryName {name : List Char} (h : '/' ∉ name) : IsName (temporaryName name) := by
  have hlength : 5 ≤ (temporaryName name).length := by
    simp [temporaryName]
  refine ⟨?_, ?_, ?_, ?_⟩
  · exact List.ne_nil_of_length_pos (by omega)
  · exact fun heq => by simp [heq] at hlength
  · exact fun heq => by simp [heq] at hlength
  · simp [temporaryName, h]

/-- The names that lead to the temporary file for a file. -/
def temporaryNames (names : Location) : Location :=
  names.dropLast ++ (names.getLast?.map fun name =>
    String.ofList (temporaryName name.toList)).toList

/-- The temporary file for a file stands in the same directory. -/
theorem temporaryNames_concat (init : Location) (last : String) :
    temporaryNames (init ++ [last]) = init ++ [String.ofList (temporaryName last.toList)] := by
  simp [temporaryNames]

/-- The names that lead to a temporary file are proper names. -/
theorem areNames_temporaryNames {names : Location} (h : AreNames names) :
    AreNames (temporaryNames names) := by
  rcases List.eq_nil_or_concat names with rfl | ⟨init, last, hnames⟩
  · exact areNames_nil
  · obtain rfl : names = init ++ [last] := by rw [hnames, List.concat_eq_append]
    obtain ⟨hinit, hlast⟩ := areNames_append.mp h
    rw [temporaryNames_concat, areNames_append, areNames_singleton, String.toList_ofList]
    exact ⟨hinit, isName_temporaryName (areNames_singleton.mp hlast).not_mem_slash⟩

/-- A temporary file does not stand at the root of the tree. -/
theorem temporaryNames_ne_nil {names : Location} (hne : names ≠ []) :
    temporaryNames names ≠ [] := by
  rcases List.eq_nil_or_concat names with rfl | ⟨init, last, hnames⟩
  · exact absurd rfl hne
  · simp [hnames, List.concat_eq_append, temporaryNames_concat]

/-- The path of a temporary file ends in the ending of its name. -/
theorem suffix_pathOf_temporaryNames {names : Location} (hne : names ≠ []) :
    ".c2i.tmp".toList <:+ (pathOf (temporaryNames names)).toList := by
  rcases List.eq_nil_or_concat names with rfl | ⟨init, last, hnames⟩
  · exact absurd rfl hne
  · rw [hnames, List.concat_eq_append, temporaryNames_concat]
    refine List.IsSuffix.trans ?_ (toList_suffix_pathOf init _)
    rw [String.toList_ofList, String.toList_ofList]
    exact List.suffix_append _ _

/-- The store has no file that is a temporary file for another one. -/
theorem temporaryNames_ne_ownName {name : String} (hname : name ∈ StateStore.ownNames)
    {names : Location} : temporaryNames names ≠ [name] := by
  have hsuffix : ∀ n ∈ StateStore.ownNames,
      ¬ ['.', 'c', '2', 'i', '.', 't', 'm', 'p'] <:+ n.toList := by
    decide
  intro heq
  rcases List.eq_nil_or_concat names with rfl | ⟨init, last, hnames⟩
  · simp [temporaryNames] at heq
  · rw [hnames, List.concat_eq_append, temporaryNames_concat] at heq
    obtain ⟨-, hlast⟩ := List.append_inj' (heq.trans (List.nil_append [name]).symm) rfl
    refine hsuffix name hname ?_
    rw [← List.singleton_inj.mp hlast, String.toList_ofList]
    exact List.suffix_append _ _

/-- The path of the temporary file for a file below a root. -/
theorem temporaryPath_join (root : List Char) {names : Location} (hne : names ≠ [])
    (hnames : AreNames names) :
    temporaryPath (Path.join root (pathOf names).toList) =
      Path.join root (pathOf (temporaryNames names)).toList := by
  rcases List.eq_nil_or_concat names with rfl | ⟨init, last, hconcat⟩
  · exact absurd rfl hne
  · obtain rfl : names = init ++ [last] := by rw [hconcat, List.concat_eq_append]
    obtain ⟨hinit, hlast⟩ := areNames_append.mp hnames
    have hlast := areNames_singleton.mp hlast
    have hname := isName_temporaryName hlast.not_mem_slash
    rw [temporaryNames_concat, toList_pathOf, toList_pathOf, List.map_append, List.map_append,
      List.map_singleton, List.map_singleton, String.toList_ofList, temporaryPath,
      Path.fileName?_join root hinit.toList hlast, Option.getD_some,
      Path.withFileName_join root hinit.toList hlast hname]

/-- The temporary file for a file, where both are named by their paths below a root. -/
def temporaryFile (file : String) : String :=
  String.ofList (temporaryPath file.toList)

/-- The temporary file for a path of names is the path of the names for it. -/
theorem temporaryFile_pathOf {names : Location} (hne : names ≠ []) (hnames : AreNames names) :
    temporaryFile (pathOf names) = pathOf (temporaryNames names) := by
  have hjoin := temporaryPath_join [] hne hnames
  rw [Path.join_nil, Path.join_nil] at hjoin
  rw [temporaryFile, hjoin, String.ofList_toList]

/-- Where the temporary file for a file below a root stands. -/
theorem location_temporaryPath (root : List Char) {names : Location} (hne : names ≠ [])
    (hnames : AreNames names) :
    Path.location (temporaryPath (Path.join root (pathOf names).toList)) =
      Path.location root ++ temporaryNames names := by
  rw [temporaryPath_join root hne hnames,
    Path.location_join root (temporaryNames_ne_nil hne) (areNames_temporaryNames hnames)]

/-- A temporary file has another name than its file. -/
theorem temporaryNames_ne {names : Location} (hne : names ≠ []) : temporaryNames names ≠ names := by
  rcases List.eq_nil_or_concat names with rfl | ⟨init, last, hconcat⟩
  · exact absurd rfl hne
  · rw [hconcat, List.concat_eq_append, temporaryNames_concat]
    intro heq
    have hlast := List.singleton_inj.mp (List.append_cancel_left heq)
    have hlength := congrArg (fun name : String => name.toList.length) hlast
    simp only [String.toList_ofList, temporaryName, List.length_append, List.length_cons] at hlength
    omega

/-- Where the temporary file for a file that can be read stands. -/
theorem location_temporaryPath_of_read {t : FileTree} {path : List Char} {content : ByteArray}
    (h : t.read path = .ok content) :
    Path.location (temporaryPath path) = temporaryNames (Path.location path) := by
  obtain ⟨before, last, rfl, hbefore, hlast⟩ := FileTree.exists_eq_append_name h
  obtain ⟨loc, hloc⟩ := Path.exists_location_append hbefore
  rw [temporaryPath, Path.fileName?_append hbefore hlast, Option.getD_some,
    Path.withFileName_append hbefore hlast, hloc last hlast,
    hloc _ (isName_temporaryName hlast.not_mem_slash), temporaryNames_concat, String.toList_ofList]

/-- The temporary file for a file that can be read is another file. -/
theorem location_temporaryPath_ne {t : FileTree} {path : List Char} {content : ByteArray}
    (h : t.read path = .ok content) :
    Path.location (temporaryPath path) ≠ Path.location path := by
  rw [location_temporaryPath_of_read h]
  exact temporaryNames_ne (FileTree.ne_nil_of_get?_file (FileTree.read_eq_ok_iff.mp h).2)

/-! ### Replacing a file -/

/-- A file that can be read is replaced, unless the temporary file cannot be written. -/
theorem replace_cases {t t' : FileTree} {path : List Char} {old : ByteArray} {content : String}
    {result : Except OsError Unit} (hread : t.read path = .ok old)
    (h : replace t path content = (t', result)) :
    (t' = t ∧ result ≠ .ok ()) ∨
      (result = .ok () ∧ t'.readText path = .ok content ∧
        t'.get? (Path.location (temporaryPath path)) = none ∧
        t.ChangesOnly [Path.location (temporaryPath path), Path.location path] t' ∧
        (t.WellNamed → t'.WellNamed)) := by
  have hne := location_temporaryPath_ne hread
  unfold replace at h
  dsimp only at h
  split at h
  · obtain ⟨rfl, rfl⟩ := Prod.mk.inj h
    exact .inl ⟨rfl, by simp⟩
  · rename_i t₁ hwrite
    have hframe := FileTree.changesOnly_write hwrite
    have htemporary := FileTree.read_of_write hwrite
    have hold := FileTree.read_eq_ok_iff.mp
      (hframe.read (by simpa [eq_comm] using hne) hread)
    have hrename := FileTree.rename_of_read htemporary hold.1 (by simp [hold.2])
    have hmove := FileTree.changesOnly_rename hrename
    rw [hrename] at h
    obtain ⟨rfl, rfl⟩ := Prod.mk.inj h
    refine .inr ⟨rfl, ?_, ?_, (hframe.mono (by simp)).trans hmove, fun hnames => ?_⟩
    · exact FileTree.readText_eq_ok_iff.mpr (FileTree.read_of_rename htemporary hrename)
    · have hnil := FileTree.ne_nil_of_get?_file (FileTree.read_eq_ok_iff.mp htemporary).2
      rw [FileTree.get?_set hnil, if_neg hne, FileTree.get?_erase hnil, if_pos rfl]
    · exact FileTree.WellNamed.rename (FileTree.WellNamed.write hnames hwrite) hrename

/-- A file that can be read is replaced if no directory stands in the place of the temporary file.
-/
theorem exists_replace {t : FileTree} {path : List Char} {old : ByteArray} {content : String}
    (hread : t.read path = .ok old)
    (hlocate : t.locate (temporaryPath path) = .ok (Path.location (temporaryPath path)))
    (hfree : t.get? (Path.location (temporaryPath path)) ≠ some .directory) :
    ∃ t', replace t path content = (t', .ok ()) := by
  have hne := location_temporaryPath_ne hread
  have hwrite : t.writeText (temporaryPath path) content =
      .ok (t.set (Path.location (temporaryPath path)) (.file content.toUTF8)) :=
    FileTree.write_of_locate hlocate hfree
  have hframe := FileTree.changesOnly_write hwrite
  have hold := FileTree.read_eq_ok_iff.mp (hframe.read (by simpa [eq_comm] using hne) hread)
  have hrename := FileTree.rename_of_read (FileTree.read_of_write hwrite) hold.1
    (by rw [hold.2]; simp)
  unfold replace
  dsimp only
  rw [hwrite]
  dsimp only
  rw [hrename]
  exact ⟨_, rfl⟩

/-- A file in the root is replaced if no directory stands in the place of its temporary file. -/
theorem exists_replace_current {t : FileTree} {name text content : String}
    (hname : FileTree.IsPlain name) (htemporary : FileTree.IsPlain (temporaryFile name))
    (hread : t.readText (Path.join ".".toList name.toList) = .ok text)
    (hfree : t.get? [temporaryFile name] ≠ some .directory) :
    ∃ t', replace t (Path.join ".".toList name.toList) content = (t', .ok ()) := by
  have hpath : temporaryPath (Path.join ".".toList name.toList) =
      Path.join ".".toList (temporaryFile name).toList := by
    have hnames : AreNames [name] := areNames_singleton.mpr hname.isName
    have hjoin := temporaryPath_join ".".toList (by simp) hnames
    rw [← temporaryFile_pathOf (by simp) hnames, pathOf_singleton] at hjoin
    exact hjoin
  have hplace := Path.location_join_name ".".toList htemporary.isName
  have hlocate := t.enters_current.locate_join htemporary.isName htemporary.not_mem_nul
    htemporary.short
  refine exists_replace (FileTree.readText_eq_ok_iff.mp hread) ?_ ?_
  · rw [hpath, hplace]
    exact hlocate
  · rw [hpath, hplace, FileTree.location_current]
    exact hfree

/-! ### Write-backs -/

/-- How a write-back can go, with the tree that it leaves and its result. -/
inductive Course (t : FileTree) (root file : String) (line : UInt32) (number : UInt64)
    (expected : Option String) : FileTree → Except WriteBackFault WriteBackOutcome → Prop where
  | unreadable {fault : ReadFault} :
      t.readText (Path.join root.toList file.toList) = .error fault →
      Course t root file line number expected t (.error (.unreadable fault))
  /-- There is no such line, or it does not read as expected. -/
  | refused {content : String} {fault : WriteBackFault} :
      t.readText (Path.join root.toList file.toList) = .ok content →
      insertInto content.toList line number (expected.map String.toList) = .error fault →
      Course t root file line number expected t (.error fault)
  /-- The line is left alone. -/
  | spared {content : String} {outcome : WriteBackOutcome} :
      t.readText (Path.join root.toList file.toList) = .ok content →
      insertInto content.toList line number (expected.map String.toList) = .ok (none, outcome) →
      Course t root file line number expected t (.ok outcome)
  | unwritten {content : String} {updated : List Char} {outcome : WriteBackOutcome}
      {t' : FileTree} {e : OsError} :
      t.readText (Path.join root.toList file.toList) = .ok content →
      insertInto content.toList line number (expected.map String.toList) =
        .ok (some updated, outcome) →
      replace t (Path.join root.toList file.toList) (String.ofList updated) = (t', .error e) →
      Course t root file line number expected t' (.error (.unwritable e))
  | written {content : String} {updated : List Char} {outcome : WriteBackOutcome}
      {t' : FileTree} :
      t.readText (Path.join root.toList file.toList) = .ok content →
      insertInto content.toList line number (expected.map String.toList) =
        .ok (some updated, outcome) →
      replace t (Path.join root.toList file.toList) (String.ofList updated) = (t', .ok ()) →
      Course t root file line number expected t' (.ok outcome)

/-- A write-back goes in one of these ways. -/
theorem insert_eq_iff {t t' : FileTree} {root file : String} {line : UInt32} {number : UInt64}
    {expected : Option String} {result : Except WriteBackFault WriteBackOutcome} :
    insert t root file line number expected = (t', result) ↔
      Course t root file line number expected t' result := by
  unfold insert
  dsimp only
  constructor
  · intro h
    split at h
    · rename_i fault hread
      obtain ⟨rfl, rfl⟩ := Prod.mk.inj h
      exact .unreadable hread
    · rename_i content hread
      split at h
      · rename_i fault hinto
        obtain ⟨rfl, rfl⟩ := Prod.mk.inj h
        exact .refused hread hinto
      · rename_i outcome hinto
        obtain ⟨rfl, rfl⟩ := Prod.mk.inj h
        exact .spared hread hinto
      · rename_i updated outcome hinto
        split at h
        · rename_i t₁ e hreplace
          obtain ⟨rfl, rfl⟩ := Prod.mk.inj h
          exact .unwritten hread hinto hreplace
        · rename_i t₁ hreplace
          obtain ⟨rfl, rfl⟩ := Prod.mk.inj h
          exact .written hread hinto hreplace
  · intro h
    cases h with
    | unreadable hread => simp only [hread]
    | refused hread hinto | spared hread hinto => simp only [hread, hinto]
    | unwritten hread hinto hreplace | written hread hinto hreplace =>
      simp only [hread, hinto, hreplace]

/-- A marker that a line has room for is inserted if the file can be replaced. -/
theorem exists_insert {t : FileTree} {root file text : String} {content : String}
    {updated : List Char} {line : UInt32} {number : UInt64} (expected : Option String)
    (hread : t.readText (Path.join root.toList file.toList) = .ok content)
    (hinto : insertInto content.toList line number (expected.map String.toList) =
      .ok (some updated, .inserted text))
    (hreplace : ∃ t', replace t (Path.join root.toList file.toList) (String.ofList updated) =
      (t', .ok ())) :
    ∃ t', insert t root file line number expected = (t', .ok (.inserted text)) := by
  obtain ⟨t', hreplace⟩ := hreplace
  exact ⟨t', insert_eq_iff.mpr (.written hread hinto hreplace)⟩

/-- A write-back inserts the marker, or leaves the tree as it was. -/
theorem insert_cases {t t' : FileTree} {root file : String} {line : UInt32} {number : UInt64}
    {expected : Option String} {result : Except WriteBackFault WriteBackOutcome}
    (h : insert t root file line number expected = (t', result)) :
    (t' = t ∧ ∀ text, result ≠ .ok (.inserted text)) ∨
      ∃ content updated text,
        t.readText (Path.join root.toList file.toList) = .ok content ∧
        insertInto content.toList line number (expected.map String.toList) =
          .ok (some updated, .inserted text) ∧
        result = .ok (.inserted text) ∧
        t'.readText (Path.join root.toList file.toList) = .ok (String.ofList updated) ∧
        t'.get? (Path.location (temporaryPath (Path.join root.toList file.toList))) = none ∧
        t.ChangesOnly [Path.location (temporaryPath (Path.join root.toList file.toList)),
          Path.location (Path.join root.toList file.toList)] t' ∧
        (t.WellNamed → t'.WellNamed) := by
  cases insert_eq_iff.mp h with
  | unreadable | refused => exact .inl ⟨rfl, by simp⟩
  | spared _ hinto =>
    obtain ⟨-, -, -, -, rfl⟩ := insertInto_eq_none hinto
    exact .inl ⟨rfl, by simp⟩
  | unwritten hread _ hreplace =>
    rcases replace_cases (FileTree.readText_eq_ok_iff.mp hread) hreplace with
      ⟨rfl, -⟩ | ⟨hresult, -⟩
    · exact .inl ⟨rfl, by simp⟩
    · simp at hresult
  | written hread hinto hreplace =>
    obtain ⟨l, -, -, -, -, rfl⟩ := insertInto_eq_some hinto
    rcases replace_cases (FileTree.readText_eq_ok_iff.mp hread) hreplace with
      ⟨-, hresult⟩ | ⟨-, hnew, hgone, hframe, hnames⟩
    · exact absurd rfl hresult
    · exact .inr ⟨_, _, _, hread, hinto, rfl, hnew, hgone, hframe, hnames⟩

/-! ### Looking at a line -/

/-- What is read of a line is its text, trimmed. -/
theorem readLine_eq_ok_iff {t : FileTree} {root file text : String} {line : UInt32} :
    readLine t root file line = .ok text ↔
      ∃ content l, t.readText (Path.join root.toList file.toList) = .ok content ∧
        lineAt (lines content.toList) line = .ok l ∧ text = String.ofList (Chars.trim l.body) := by
  unfold readLine
  constructor
  · intro h
    split at h
    · simp at h
    · rename_i content hread
      split at h
      · simp at h
      · rename_i l hl
        exact ⟨content, l, hread, hl, (Except.ok.inj h).symm⟩
  · rintro ⟨content, l, hread, hl, rfl⟩
    rw [hread]
    simp only [hl]

/-- The line of a record reads as the record does. -/
theorem readLine_of_mem {t : FileTree} {root file content : String} {p : ScanPattern}
    {r : CommentRecord} (h : r ∈ p.scanContent file content)
    (hread : t.readText (Path.join root.toList file.toList) = .ok content) :
    readLine t root file r.line = .ok r.text := by
  obtain ⟨l, hl, htext⟩ := ScanPattern.lineAt_of_mem h
  exact readLine_eq_ok_iff.mpr ⟨content, l, hread, hl, htext⟩

end TrackedComments.WriteBack

import TrackedComments.Proofs.Workspace.Attempts

/-!
# What the lines of a workspace give

A line that the pattern takes for a comment gives a record, as its file reads now. A marker that is
written changes what its own line gives. Whether it is written or not, it changes nothing about
other lines, unless their file has the name of the temporary file.

## Main results

* `Workspace.Gives.of_changesOnly`: a line gives what it gave if its file has not been touched.
* `Workspace.MarkerAttempt.gives_linked`, `Workspace.MarkerAttempt.gives_or_overwritten`: what lines
  give after a marker has been written or not.
-/

namespace TrackedComments

open CommentRecord

/-- A record of a line to which a marker has been added. -/
def CommentRecord.marked (r : CommentRecord) (text : String) (number : UInt64) : CommentRecord :=
  { r with text, issueNumber := if number = 0 then none else some number }

theorem CommentRecord.file_marked (r : CommentRecord) (text : String) (number : UInt64) :
    (r.marked text number).file = r.file := rfl

namespace Workspace

/-- Where a file below the root stands. -/
def placeOf (w : Workspace) (file : String) : Location :=
  Path.location (Path.join w.root.toList file.toList)

/-- Whether nothing stands where a file would stand. -/
def Gone (w : Workspace) (t : FileTree) (file : String) : Prop :=
  t.get? (w.placeOf file) = none

/-- Whether a record is what its line gives, as the file reads now. -/
def Gives (w : Workspace) (t : FileTree) (fresh : CommentRecord) : Prop :=
  ∃ content, t.readText (Path.join w.root.toList fresh.file.toList) = .ok content ∧
    fresh ∈ w.pattern.scanContent fresh.file content

/-- Whether a record is what its line gives, but for the number. -/
def AsRead (w : Workspace) (t : FileTree) (r : CommentRecord) : Prop :=
  ∃ fresh, w.Gives t fresh ∧ r = fresh.withNumber r.issueNumber

variable {w w' : Workspace} {t t' : FileTree} {fresh fresh' r : CommentRecord}

/-! ### Files and lines -/

/-- A path of proper names leads to these names below the root. -/
theorem placeOf_pathOf (w : Workspace) {names : Location} (hne : names ≠ [])
    (hnames : AreNames names) : w.placeOf (pathOf names) = Path.location w.root.toList ++ names :=
  Path.location_join _ hne hnames

/-- Workspaces with the same setup agree on whether a file is gone. -/
theorem SameSetup.gone_iff (h : SameSetup w w') {file : String} :
    w'.Gone t file ↔ w.Gone t file := by
  rw [Gone, Gone, placeOf, placeOf, h.root]

/-- Workspaces with the same setup agree on what a line gives. -/
theorem SameSetup.gives_iff (h : SameSetup w w') : w'.Gives t fresh ↔ w.Gives t fresh := by
  rw [Gives, Gives, h.root, h.pattern]

/-- Workspaces with the same setup agree on whether a record is as its line reads. -/
theorem SameSetup.asRead_iff (h : SameSetup w w') : w'.AsRead t r ↔ w.AsRead t r := by
  simp only [AsRead, h.gives_iff]

/-- A file that is read is there. -/
theorem not_gone_of_readText {file content : String}
    (h : t.readText (Path.join w.root.toList file.toList) = .ok content) : ¬ w.Gone t file := by
  have hnode := (FileTree.read_eq_ok_iff.mp (FileTree.readText_eq_ok_iff.mp h)).2
  rw [Gone, placeOf, hnode]
  simp

/-- A file that is listed is there. -/
theorem not_gone_of_mem_listFiles (hnamed : t.WellNamed) {respectIgnore : Bool}
    {files : List String} (hlist : t.listFiles w.root respectIgnore w.filter = .ok files)
    {file : String} (hfile : file ∈ files) : ¬ w.Gone t file := by
  obtain ⟨names, content, hne, hnode, -, rfl, -⟩ := (FileTree.mem_listFiles hlist).mp hfile
  have hnames := (areNames_append.mp (hnamed.of_get? hnode)).2
  rw [Gone, placeOf_pathOf w hne hnames, hnode]
  simp

/-- A file with a line that gives a record is there. -/
theorem Gives.not_gone (h : w.Gives t fresh) : ¬ w.Gone t fresh.file := by
  obtain ⟨content, hread, -⟩ := h
  exact not_gone_of_readText hread

/-- What a line gives is among the records of the content of its file. -/
theorem Gives.mem_scanContent (h : w.Gives t fresh) {content : String}
    (hread : t.readText (Path.join w.root.toList fresh.file.toList) = .ok content) :
    fresh ∈ w.pattern.scanContent fresh.file content := by
  obtain ⟨content', hread', hmem⟩ := h
  obtain rfl := Except.ok.inj (hread.symm.trans hread')
  exact hmem

/-- A line gives one record at most. -/
theorem Gives.unique (h : w.Gives t fresh) (h' : w.Gives t fresh')
    (hid : fresh.identity = fresh'.identity) : fresh = fresh' := by
  obtain ⟨hfile, hline⟩ := Prod.mk.inj hid
  obtain ⟨content, hread, hmem⟩ := h
  have hmem' := h'.mem_scanContent (hfile ▸ hread)
  exact ScanPattern.scanContent_eq_of_line_eq hmem (hfile ▸ hmem') hline

/-- The record that a line gives has the number of the line. -/
theorem Gives.issueNumber (h : w.Gives t fresh) :
    fresh.issueNumber = Marker.find? fresh.text.toList := by
  obtain ⟨content, -, hmem⟩ := h
  exact ScanPattern.issueNumber_of_mem hmem

/-- A record that a line gives is as the line reads, with any number. -/
theorem Gives.asRead (h : w.Gives t fresh) (number : Option UInt64) :
    w.AsRead t (fresh.withNumber number) :=
  ⟨fresh, h, rfl⟩

/-- A record that is what its line gives has the text of the line. -/
theorem AsRead.readLine (h : w.AsRead t r) :
    WriteBack.readLine t w.root r.file r.line = .ok r.text := by
  obtain ⟨fresh, ⟨content, hread, hmem⟩, hrow⟩ := h
  have hline := WriteBack.readLine_of_mem hmem hread
  rw [hrow]
  exact hline

/-- The file of a record that is as its line reads can be read. -/
theorem AsRead.exists_readText (h : w.AsRead t r) :
    ∃ content, t.readText (Path.join w.root.toList r.file.toList) = .ok content := by
  obtain ⟨fresh, ⟨content, hread, -⟩, hrow⟩ := h
  have hfile : fresh.file = r.file := by rw [hrow]; rfl
  exact ⟨content, hfile ▸ hread⟩

/-! ### Frames -/

/-- A line gives what it gave if its file has not been touched. -/
theorem Gives.of_changesOnly (h : w.Gives t fresh) {places : List Location}
    (hframe : t.ChangesOnly places t') (hplace : w.placeOf fresh.file ∉ places) :
    w.Gives t' fresh := by
  obtain ⟨content, hread, hmem⟩ := h
  exact ⟨content, hframe.readText hplace hread, hmem⟩

/-- A file stays gone if other places change. -/
theorem Gone.of_changesOnly {file : String} (h : w.Gone t file) {places : List Location}
    (hframe : t.ChangesOnly places t') (hplace : w.placeOf file ∉ places) : w.Gone t' file :=
  (hframe.get?_eq _ hplace).trans h

/-- A file that passes the filter is none of the store. -/
theorem placeOf_not_mem_ownPlaces
    (hrejects : ∀ name ∈ StateStore.ownNames, w.filter.accepts name = false) {file : String}
    (hlists : w.filter.Lists file) : w.placeOf file ∉ w.store.ownPlaces := by
  obtain ⟨names, hne, hnames, rfl, haccepts⟩ := hlists
  rw [placeOf_pathOf w hne hnames, StateStore.ownPlaces, List.mem_map]
  rintro ⟨name, hname, heq⟩
  refine place_not_mem hname (hrejects name hname) haccepts ?_
  rw [heq]
  simp

/-! ### Markers -/

/-- A marker that has been written changes what its own line gives. -/
theorem Inserts.exists_scanContent {record : CommentRecord} {number : UInt64} {names : Location}
    {text : String} (h : w.Inserts record number names text t t') :
    ∃ content updated,
      t.readText (Path.join w.root.toList record.file.toList) = .ok content ∧
        t'.readText (Path.join w.root.toList record.file.toList) = .ok updated ∧
        w.pattern.scanContent record.file updated =
          (w.pattern.scanContent record.file content).map fun r =>
            if r.line = record.line then r.marked text number else r := by
  obtain ⟨content, updated, hread, hinto, hread'⟩ := h.content
  obtain ⟨l, hl, -, hopen, hlines, houtcome⟩ := WriteBack.insertInto_eq_some hinto
  obtain rfl := WriteBackOutcome.inserted.inj houtcome
  refine ⟨content, String.ofList updated, hread, hread', ?_⟩
  exact w.pattern.scanContent_of_mark record.file hl hopen (by rw [String.toList_ofList, hlines])

/-- A marker that has not been written leaves its file as it was. -/
theorem Spares.gives {names : Location} {marker : MarkerWrite} (h : w.Spares names marker t t')
    (hne : names ≠ []) (hnames : AreNames names) (hgives : w.Gives t fresh)
    (hfile : fresh.file = pathOf names) : w.Gives t' fresh := by
  refine hgives.of_changesOnly h.frame ?_
  rw [hfile, placeOf_pathOf w hne hnames, List.mem_singleton, List.append_cancel_left_eq]
  exact (WriteBack.temporaryNames_ne hne).symm

section Inserts

variable {record : CommentRecord} {number : UInt64} {names : Location} {text : String}
  (h : w.Inserts record number names text t t')

include h

/-- The line of a marker gives the record that has been linked. -/
theorem Inserts.gives_marked (hf : w.Gives t fresh) (hid : fresh.identity = record.identity) :
    w.Gives t' (fresh.marked text number) := by
  obtain ⟨hfile, hline⟩ := Prod.mk.inj hid
  obtain ⟨content, updated, hread, hread', hscan⟩ := h.exists_scanContent
  have hmem := hf.mem_scanContent (hfile ▸ hread)
  refine ⟨updated, hfile ▸ hread', ?_⟩
  rw [file_marked, hfile, hscan]
  exact List.mem_map.mpr ⟨fresh, hfile ▸ hmem, if_pos hline⟩

/-- The other lines of its file give what they gave. -/
theorem Inserts.gives_of_ne (hf : w.Gives t fresh) (hfile : fresh.file = record.file)
    (hline : fresh.line ≠ record.line) : w.Gives t' fresh := by
  obtain ⟨content, updated, hread, hread', hscan⟩ := h.exists_scanContent
  have hmem := hf.mem_scanContent (hfile ▸ hread)
  refine ⟨updated, hfile ▸ hread', ?_⟩
  rw [hfile, hscan]
  exact List.mem_map.mpr ⟨fresh, hfile ▸ hmem, if_neg hline⟩

end Inserts

/-- A listed file that neither gets a marker nor is used as the temporary file stands elsewhere. -/
theorem placeOf_not_mem {file : String} (hlists : w.filter.Lists file) {names : Location}
    (hfile : file ≠ pathOf names) (htemporary : file ≠ pathOf (WriteBack.temporaryNames names)) :
    w.placeOf file ∉ [Path.location w.root.toList ++ WriteBack.temporaryNames names,
      Path.location w.root.toList ++ names] := by
  obtain ⟨others, hne, hothers, rfl, -⟩ := hlists
  rw [placeOf_pathOf w hne hothers]
  simp only [List.mem_cons, List.append_cancel_left_eq, List.not_mem_nil, or_false, not_or]
  exact ⟨fun heq => htemporary (congrArg pathOf heq), fun heq => hfile (congrArg pathOf heq)⟩

namespace MarkerAttempt

variable {record : CommentRecord} {number : UInt64} {marker : MarkerWrite}
  (h : w.MarkerAttempt t record number marker t') (hrecord : w.filter.Lists record.file)

include h hrecord

/-- The line of a record gives the linked record, but for its number, whether the marker has been
written or not. -/
theorem gives_linked (hread : w.AsRead t record) :
    ∃ fresh, w.Gives t' fresh ∧ fresh.file = record.file ∧
      linkedRecord record number marker = fresh.withNumber (some number) := by
  obtain ⟨fresh, hgives, hrow⟩ := hread
  have hid : fresh.identity = record.identity := by
    rw [hrow, identity_withNumber]
  have hsame := (Prod.mk.inj hid).1
  obtain ⟨names, hne, hnames, hfile, -⟩ := hrecord
  rcases h.cases hne hnames hfile with hspares | ⟨text, rfl, hinserts⟩
  · refine ⟨fresh, hspares.gives hne hnames hgives (hsame.trans hfile), hsame, ?_⟩
    rw [linkedRecord_of_not_inserted hspares.not_inserted, hrow]
    rfl
  · refine ⟨fresh.marked text number, hinserts.gives_marked hgives hid, hsame, ?_⟩
    rw [hrow]
    rfl

/-- Files other than that of the record and its temporary file stay as they are. -/
theorem exists_changesOnly_of_ne {file : String} (hlists : w.filter.Lists file)
    (hne : file ≠ record.file) (htemporary : file ≠ WriteBack.temporaryFile record.file) :
    ∃ places, t.ChangesOnly places t' ∧ w.placeOf file ∉ places := by
  obtain ⟨names, hnil, hnames, hfile, -⟩ := hrecord
  rw [hfile, WriteBack.temporaryFile_pathOf hnil hnames] at htemporary
  exact ⟨_, (h.changesOnly hnil hnames hfile).1,
    placeOf_not_mem hlists (hfile ▸ hne) htemporary⟩

/-- Every other line gives what it gave, unless its file has been used as the temporary file. -/
theorem gives_or_overwritten (hgives : w.Gives t fresh) (hlists : w.filter.Lists fresh.file)
    (hid : fresh.identity ≠ record.identity) :
    w.Gives t' fresh ∨
      marker ≠ .written .alreadyMarked ∧ fresh.file = WriteBack.temporaryFile record.file := by
  by_cases hown : fresh.file = record.file
  · have hline : fresh.line ≠ record.line := fun hline => hid (Prod.ext hown hline)
    obtain ⟨names, hne, hnames, hfile, -⟩ := hrecord
    rcases h.cases hne hnames hfile with hspares | ⟨text, -, hinserts⟩
    · exact .inl (hspares.gives hne hnames hgives (hown.trans hfile))
    · exact .inl (hinserts.gives_of_ne hgives hown hline)
  · by_cases htemporary : fresh.file = WriteBack.temporaryFile record.file
    · by_cases hmarked : marker = .written .alreadyMarked
      · obtain ⟨names, hne, hnames, hfile, -⟩ := hrecord
        rcases h.cases hne hnames hfile with hspares | ⟨text, hwritten, -⟩
        · exact .inl (hspares.untouched hmarked ▸ hgives)
        · simp [hwritten] at hmarked
      · exact .inr ⟨hmarked, htemporary⟩
    · obtain ⟨places, hframe, hplace⟩ := h.exists_changesOnly_of_ne hrecord hlists hown htemporary
      exact .inl (hgives.of_changesOnly hframe hplace)

end MarkerAttempt

end Workspace

end TrackedComments

import TrackedComments.Proofs.Config
import TrackedComments.Proofs.Workspace.Failures
import TrackedComments.Proofs.WriteBack.Insertion

/-!
# The comment that an issue is created for

An issue is created for the record that is found by a file and a line, or it is refused because of
this record. The marker goes into the file of the record, and nothing else is written but the files
of the store. They hold no settings, so a workspace is loaded afterwards as it was before.

## Main results

* `Workspace.load_of_changesOnly`: a workspace is loaded as before.
* `Workspace.createIssue_ne_commentNotFound`: a comment that is found is not missing.
* `Workspace.changesOnly_createIssue`: what is written.
-/

namespace TrackedComments

open CommentRecord

/-! ### Loading a workspace -/

namespace Workspace

variable {w w' : Workspace} {t t' : FileTree} {root : String}

/-- A workspace is the one of its configuration. -/
theorem load_eq_ok_iff : load t root = .ok w ↔
    ∃ config, Config.load t root = .ok config ∧ ofConfig root config = .ok w := by
  unfold load
  cases Config.load t root with
  | error e => simp [bind, Except.bind]
  | ok config => simp [bind, Except.bind]

/-- A workspace is loaded for its root. -/
theorem root_of_load (h : load t root = .ok w) : w.root = root := by
  obtain ⟨config, -, h⟩ := load_eq_ok_iff.mp h
  unfold ofConfig at h
  cases hvalid : config.validate with
  | error e => simp [hvalid, bind, Except.bind] at h
  | ok _ =>
    cases hpattern : config.scanPattern with
    | error e => simp [hvalid, hpattern, bind, Except.bind] at h
    | ok pattern =>
      cases hfilter : config.fileFilter with
      | error e => simp [hvalid, hpattern, hfilter, bind, Except.bind] at h
      | ok filter =>
        simp only [hvalid, hpattern, hfilter, bind, Except.bind, Except.ok.injEq] at h
        rw [← h]

/-- The settings are in no file of the store. -/
theorem configPath_not_mem_ownPlaces (root : String) :
    Path.location (Config.path root).toList ∉ (StateStore.mk root).ownPlaces := by
  have hname : IsName Config.fileName.toList := ⟨by decide, by decide, by decide, by decide⟩
  rw [Config.path, String.toList_ofList, Path.location_join_name _ hname]
  intro hmem
  obtain ⟨name, hown, heq⟩ := List.mem_map.mp hmem
  have hne : ∀ name ∈ StateStore.ownNames, name ≠ Config.fileName := by decide
  exact hne name hown (List.singleton_inj.mp (List.append_cancel_left heq))

/-- A workspace is loaded as before after a change to the files of the store. -/
theorem load_of_changesOnly (hframe : t.ChangesOnly (StateStore.mk root).ownPlaces t')
    (h : load t root = .ok w) : load t' root = .ok w := by
  obtain ⟨config, hconfig, hw⟩ := load_eq_ok_iff.mp h
  exact load_eq_ok_iff.mpr
    ⟨config, Config.load_of_changesOnly hframe (configPath_not_mem_ownPlaces root) hconfig, hw⟩

/-! ### What is found -/

/-- What the tree shows has no part in a scan. -/
theorem scan_loadPersisted {report : ScanReport} {source : FileSource}
    (h : w.scan t source = (.ok report, w', t')) :
    (w.loadPersisted t).scan t source =
      (.ok report, (w.loadPersisted t).setComments report.records, t') := by
  obtain ⟨hreport, hsave, -⟩ := scan_eq_ok h
  have hreport' : (w.loadPersisted t).report t source = .ok report := hreport
  have hsave' : (w.loadPersisted t).store.save t report.records = (t', .ok ()) := hsave
  unfold scan
  rw [hreport']
  dsimp only
  rw [hsave']

/-- There is the file of a record that a scan reports. -/
theorem exists_file_of_scan {report : ScanReport} (hnamed : t.WellNamed)
    (h : w.scan t (w.source t) = (.ok report, w', t')) {r : CommentRecord}
    (hr : r ∈ report.records) {names : Location} (hne : names ≠ []) (hnames : AreNames names)
    (hfile : r.file = pathOf names) :
    ∃ content, t.get? (Path.location w.root.toList ++ names) = some (.file content) := by
  obtain ⟨files, fresh, hlist, hmem, -, rfl⟩ := exists_fresh_of_report (scan_eq_ok h).1 hr
  obtain ⟨names', content, hne', hnode, -, hfile', -⟩ := (FileTree.mem_listFiles hlist).mp hmem
  have hnames' := (areNames_append.mp (hnamed.of_get? hnode)).2
  obtain rfl := pathOf_inj hnames hnames' hne hne' (hfile.symm.trans hfile')
  exact ⟨content, hnode⟩

/-- A record that is shown is found. -/
theorem find?_setComments {records : List CommentRecord} {file : String} {line : UInt32}
    {r : CommentRecord} (h : records.find? (·.isAt file line) = some r) :
    (w.setComments records).find? t file line = some r := by
  have htree : (w.setComments records).tree.find? file line = some r := h
  rw [find?, htree, Option.some_or]

/-- A record that is found is at the file and the line that it was looked up by. -/
theorem identity_of_find? {file : String} {line : UInt32} {r : CommentRecord}
    (h : w.find? t file line = some r) : r.identity = (file, line) :=
  (mem_of_find? (List.subset_append_left _ (w.store.load t)) (List.subset_append_right _ _) h).2

/-- Where a record has been saved, the directory of the store can be entered. -/
theorem enters_of_mem_load {store : StateStore} {r : CommentRecord} (h : r ∈ store.load t) :
    t.Enters store.dir.toList := by
  unfold StateStore.load at h
  split at h
  · rename_i hread
    exact StateStore.enters_of_readText hread
  · simp at h

/-- Where the saved records are shown, what is found is one of them. -/
theorem mem_load_of_find? {file : String} {line : UInt32} {r : CommentRecord}
    (h : (w.loadPersisted t).find? t file line = some r) : r ∈ w.store.load t := by
  have hshown : (w.loadPersisted t).tree.comments = w.store.load t := comments_setComments w _
  have hstore : (w.loadPersisted t).store = w.store := (sameSetup_setComments w _).store
  exact (mem_of_find? (fun _ hr => hshown ▸ hr) (fun _ hr => hstore ▸ hr) h).1

/-- After a scan, what is found is one of the records that it reports. -/
theorem mem_report_of_find? {source : FileSource} {report : ScanReport} {file : String}
    {line : UInt32} {r : CommentRecord} (hscan : w.scan t source = (.ok report, w', t'))
    (h : w'.find? t' file line = some r) : r ∈ report.records := by
  have hstore := (sameSetup_of_scan hscan).store
  obtain ⟨-, hsave, hw⟩ := scan_eq_ok hscan
  have hshown : w'.tree.comments = report.records := by rw [hw, comments_setComments]
  have hsaved : w'.store.load t' = report.records := by
    rw [hstore]
    exact StateStore.load_of_save_ok hsave
  exact (mem_of_find? (fun _ hr => hshown ▸ hr) (fun _ hr => hsaved ▸ hr) h).1

/-! ### Issues -/

section Issues

variable {τ : Type} [IssueTracker τ] {tracker tracker' : τ} {file : String} {line : UInt32}
  {force : Bool} {record : CommentRecord} {result : Except Error CreatedIssue}

/-- A comment that is found is not refused as not found. -/
theorem recordToLink_ne_commentNotFound {missing : List String} {e : Error}
    (hfind : w.find? t file line = some record)
    (h : w.recordToLink t missing file line force = .error e) (file' : String) (line' : UInt32) :
    e ≠ .commentNotFound file' line' := by
  rintro rfl
  unfold recordToLink at h
  rw [hfind] at h
  dsimp only at h
  split at h
  · simp at h
  · split at h
    · simp at h
    · split at h <;> simp at h

/-- A comment that is found is not missing. -/
theorem createIssue_ne_commentNotFound (hfind : w.find? t file line = some record)
    (h : w.createIssue t tracker file line force = (result, w', tracker', t')) (file' : String)
    (line' : UInt32) : result ≠ .error (.commentNotFound file' line') := by
  rintro rfl
  rcases createIssue_cases h with ⟨e, hrecord, he, -⟩ | ⟨_, _, -, -, he, -⟩ |
    ⟨_, _, _, -, -, hlink⟩
  · exact recordToLink_ne_commentNotFound hfind hrecord file' line' (Except.error.inj he).symm
  · simp at he
  · obtain ⟨path, message, he⟩ := error_of_link_error hlink
    simp at he

/-- A tracker is asked for the comment that is found, if for any. -/
theorem askedFor_of_find? (hfind : w.find? t file line = some record) :
    w.askedFor t tracker file line force = [] ∨
      w.askedFor t tracker file line force = [record] := by
  unfold askedFor
  cases hrecord :
      w.recordToLink t (IssueTracker.missingSettings tracker) file line force with
  | error e => exact .inl rfl
  | ok r =>
    obtain rfl := Option.some.inj ((recordToLink_eq_ok hrecord).1.symm.trans hfind)
    exact .inr rfl

/-- The place of a file below a root, and of the temporary file beside it. -/
def placesOf (root file : String) : List Location :=
  [Path.location (WriteBack.pathOfFile root file),
    WriteBack.temporaryNames (Path.location (WriteBack.pathOfFile root file))]

/-- Creating an issue for a record touches its file and the files of the store. -/
theorem changesOnly_createIssue (henters : t.Enters w.store.dir.toList)
    (hkeeps : ∀ tree record, (IssueTracker.createIssue tracker tree record).2.2 = tree)
    (hfind : w.find? t file line = some record)
    (h : w.createIssue t tracker file line force = (result, w', tracker', t')) :
    t.ChangesOnly (placesOf w.root record.file ++ w.store.ownPlaces) t' := by
  rcases createIssue_cases h with ⟨_, -, -, -, rfl⟩ | ⟨found, _, -, hcreate, -⟩ |
    ⟨found, info, t₁, hrecord, hcreate, hlink⟩
  · exact .refl _ _
  · have hsame := hkeeps t found
    rw [hcreate] at hsame
    exact hsame ▸ .refl _ _
  · obtain rfl := Option.some.inj ((recordToLink_eq_ok hrecord).1.symm.trans hfind)
    have hsame := hkeeps t found
    rw [hcreate] at hsame
    obtain rfl : t₁ = t := hsame
    obtain ⟨marker, t₂, saved, hmarker, -, hsave, -⟩ := link_cases hlink
    obtain ⟨result, hinsert, -⟩ := writeMarker_eq hmarker
    have hframe := WriteBack.changesOnly_of_attempt (.done hinsert)
    have hframe' := StateStore.changesOnly_save (henters.of_directories hframe.directories) hsave
    exact (hframe.mono (List.subset_append_left _ _)).trans
      (hframe'.mono (List.subset_append_right _ _))

end Issues

end Workspace

end TrackedComments

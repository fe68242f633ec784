import TrackedComments.Proofs.Scan.Report
import TrackedComments.Proofs.Source.Listing
import TrackedComments.Proofs.Store.Save
import TrackedComments.Proofs.WriteBack
import TrackedComments.Workspace

/-!
# What the operations of a workspace do

Each operation has few ways to end, and each way says which lists of records it leaves in the tree
and among the saved records. What a workspace was set up with never changes.

## Main results

* `Workspace.scan_cases`: a scan lists no files, saves nothing, or shows and saves its report.
* `Workspace.createIssue_cases`: an issue is refused before the tracker is asked, refused by the
  tracker, or linked.
* `Workspace.comments_showLink`: what the tree shows after a link.
-/

namespace TrackedComments

open CommentRecord

/-- No ignore rules are read from a file of the store. -/
theorem not_isIgnoreFile_of_mem_ownPlaces {store : StateStore} {loc : Location}
    (h : loc ∈ store.ownPlaces) : ¬ IsIgnoreFile loc := by
  have hnames : ∀ name ∈ StateStore.ownNames, name ∉ [".ignore", ".gitignore", "exclude"] := by
    decide
  obtain ⟨name, hname, rfl⟩ := List.mem_map.mp h
  exact fun hignore => hnames name hname (last_of_isIgnoreFile hignore)

/-- An update changes the number of the record with an identity, if identities are distinct. -/
theorem CommentTree.comments_update {tree : CommentTree} (h : (tree.comments.map identity).Nodup)
    (file : String) (line : UInt32) (number : UInt64) :
    (tree.update file line number).2.comments =
      tree.comments.map fun r => if r.isAt file line then r.withIssue number else r := by
  unfold update find?
  split
  · exact modifyFirst_eq_map h file line (·.withIssue number)
  · rename_i hnone
    exact (map_ite_isAt_of_forall _ (by simpa using hnone)).symm

/-! ### The setup -/

namespace Workspace

/-- Whether two workspaces were set up alike. What their trees show may differ. -/
structure SameSetup (w w' : Workspace) : Prop where
  root : w'.root = w.root
  config : w'.config = w.config
  pattern : w'.pattern = w.pattern
  filter : w'.filter = w.filter

theorem SameSetup.refl (w : Workspace) : SameSetup w w :=
  ⟨rfl, rfl, rfl, rfl⟩

/-- A setup that stays the same twice stays the same. -/
theorem SameSetup.trans {w w' w'' : Workspace} (h : SameSetup w w') (h' : SameSetup w' w'') :
    SameSetup w w'' :=
  ⟨h'.root.trans h.root, h'.config.trans h.config, h'.pattern.trans h.pattern,
    h'.filter.trans h.filter⟩

/-- Workspaces with the same setup have the same store. -/
theorem SameSetup.store {w w' : Workspace} (h : SameSetup w w') : w'.store = w.store := by
  rw [Workspace.store, Workspace.store, h.root]

/-- Other comments do not change the setup. -/
theorem sameSetup_setComments (w : Workspace) (comments : List CommentRecord) :
    SameSetup w (w.setComments comments) :=
  ⟨rfl, rfl, rfl, rfl⟩

@[simp] theorem comments_setComments (w : Workspace) (comments : List CommentRecord) :
    (w.setComments comments).tree.comments = comments := rfl

variable {w w' : Workspace} {t t' : FileTree}

/-! ### Scans -/

/-- The report of a scan: the fresh records, completed from the saved ones. -/
theorem report_eq_ok {source : FileSource} {report : ScanReport}
    (h : w.report t source = .ok report) :
    ∃ files, source.list w.filter = .ok files ∧
      report.records =
        reconcile (files.flatMap (source.recordsOf w.pattern)) (w.store.load t) ∧
      ∀ file, file ∈ report.failedFiles ↔
        file ∈ files ∧ ∃ fault, source.read file = .error fault := by
  rw [Workspace.report] at h
  cases hscan : source.scan w.pattern w.filter w.config.concurrency.toNat with
  | error e => simp [hscan, bind, Except.bind] at h
  | ok fresh =>
    obtain ⟨files, hlist, hrecords, hfailed⟩ := FileSource.scan_eq_ok hscan
    simp only [hscan, bind, Except.bind, Except.ok.injEq] at h
    subst h
    exact ⟨files, hlist, by rw [hrecords], hfailed⟩

section Report

variable {source : FileSource} {report : ScanReport} (h : w.report t source = .ok report)

include h

/-- A record of a report is one that its file gives, with a number that may be remembered. -/
theorem exists_fresh_of_report {r : CommentRecord} (hr : r ∈ report.records) :
    ∃ files fresh, source.list w.filter = .ok files ∧ fresh.file ∈ files ∧
      fresh ∈ source.recordsOf w.pattern fresh.file ∧ r = fresh.withNumber
        (fresh.issueNumber.or (rememberedIssue (w.store.load t) fresh.file fresh.line)) := by
  obtain ⟨files, hlist, hrecords, -⟩ := report_eq_ok h
  obtain ⟨fresh, hfresh, hrow⟩ := mem_reconcile.mp (hrecords ▸ hr)
  obtain ⟨file, hfile, hmem⟩ := List.mem_flatMap.mp hfresh
  obtain rfl := FileSource.file_of_mem_recordsOf hmem
  exact ⟨files, fresh, hlist, hfile, hmem, hrow⟩

/-- The files of the records of a report pass the filter, if the source heeds it. -/
theorem lists_of_report (hheeds : source.Heeds w.filter) {r : CommentRecord}
    (hr : r ∈ report.records) : w.filter.Lists r.file := by
  obtain ⟨files, fresh, hlist, hfile, -, rfl⟩ := exists_fresh_of_report h hr
  exact hheeds files hlist fresh.file hfile

/-- Lines are counted from 1. -/
theorem line_ne_zero_of_report {r : CommentRecord} (hr : r ∈ report.records) : r.line ≠ 0 := by
  obtain ⟨-, fresh, -, -, hfresh, rfl⟩ := exists_fresh_of_report h hr
  obtain ⟨text, -, hmem⟩ := FileSource.mem_recordsOf.mp hfresh
  obtain ⟨l, hl, -⟩ := ScanPattern.lineAt_of_mem hmem
  obtain ⟨index, hindex, -⟩ := WriteBack.lineAt_eq_ok_iff.mp hl
  rintro (hzero : fresh.line = 0)
  simp [hzero] at hindex

/-- A comment is reported as one record, even if its file is listed twice. -/
theorem eq_of_identity_eq_of_report {a b : CommentRecord} (ha : a ∈ report.records)
    (hb : b ∈ report.records) (hid : a.identity = b.identity) : a = b := by
  obtain ⟨files, -, hrecords, -⟩ := report_eq_ok h
  rw [hrecords] at ha hb
  obtain ⟨fresh, hfresh, rfl⟩ := mem_reconcile.mp ha
  obtain ⟨fresh', hfresh', rfl⟩ := mem_reconcile.mp hb
  rw [FileSource.eq_of_identity_eq_of_mem hfresh hfresh' hid]

end Report

/-- A scan lists no files, or cannot save its records, or shows and saves them. -/
theorem scan_cases {source : FileSource} {result : Except Error ScanReport}
    (h : w.scan t source = (result, w', t')) :
    (∃ e, result = .error e ∧ w' = w ∧ t' = t) ∨
      (∃ report e, w.report t source = .ok report ∧
        w.store.save t report.records = (t', .error e) ∧ result = .error e ∧ w' = w) ∨
      ∃ report, w.report t source = .ok report ∧
        w.store.save t report.records = (t', .ok ()) ∧ result = .ok report ∧
        w' = w.setComments report.records := by
  unfold Workspace.scan at h
  split at h
  · rename_i e _
    simp only [Prod.mk.injEq] at h
    obtain ⟨rfl, rfl, rfl⟩ := h
    exact .inl ⟨e, rfl, rfl, rfl⟩
  · rename_i report hreport
    split at h
    · rename_i t₁ e hsave
      simp only [Prod.mk.injEq] at h
      obtain ⟨rfl, rfl, rfl⟩ := h
      exact .inr (.inl ⟨report, e, hreport, hsave, rfl, rfl⟩)
    · rename_i t₁ hsave
      simp only [Prod.mk.injEq] at h
      obtain ⟨rfl, rfl, rfl⟩ := h
      exact .inr (.inr ⟨report, hreport, hsave, rfl, rfl⟩)

/-- A scan that succeeds has saved the report and shows it. -/
theorem scan_eq_ok {source : FileSource} {report : ScanReport}
    (h : w.scan t source = (.ok report, w', t')) :
    w.report t source = .ok report ∧ w.store.save t report.records = (t', .ok ()) ∧
      w' = w.setComments report.records := by
  rcases scan_cases h with ⟨_, hresult, -⟩ | ⟨_, _, -, -, hresult, -⟩ |
    ⟨report', hreport, hsave, hresult, hw⟩
  · simp at hresult
  · simp at hresult
  · obtain rfl := Except.ok.inj hresult
    exact ⟨hreport, hsave, hw⟩

section Directory

variable {respectIgnore : Bool} {report : ScanReport}

/-- What a scan of the directory reports: the records of the files that are listed, completed from
the saved ones. It writes the files of the store. -/
theorem scan_ofTree_eq_ok
    (h : w.scan t (.ofTree t w.root respectIgnore) = (.ok report, w', t')) :
    ∃ files, t.listFiles w.root respectIgnore w.filter = .ok files ∧
      report.records = reconcile
        (files.flatMap ((FileSource.ofTree t w.root respectIgnore).recordsOf w.pattern))
        (w.store.load t) ∧
      t.ChangesOnly w.store.ownPlaces t' ∧ (t.WellNamed → t'.WellNamed) := by
  obtain ⟨hreport, hsave, -⟩ := scan_eq_ok h
  obtain ⟨files, hlist, hrecords, -⟩ := report_eq_ok hreport
  have hlist : t.listFiles w.root respectIgnore w.filter = .ok files := hlist
  have henters : t.Enters w.store.dir.toList :=
    (FileTree.enters_of_find (FileTree.listFiles_eq_ok hlist).1).1
  exact ⟨files, hlist, hrecords, StateStore.changesOnly_save henters hsave,
    fun hnamed => StateStore.wellNamed_save hnamed hsave⟩

/-- The records of a report have pairwise distinct identities. -/
theorem nodup_identity_of_scan (hnamed : t.WellNamed)
    (h : w.scan t (.ofTree t w.root respectIgnore) = (.ok report, w', t')) :
    (report.records.map identity).Nodup := by
  obtain ⟨files, hlist, hrecords, -⟩ := scan_ofTree_eq_ok h
  rw [hrecords, map_identity_reconcile]
  exact FileSource.nodup_identity_records (FileTree.nodup_listFiles hnamed hlist) _ _

/-- The files of the records of a report pass the filter. -/
theorem lists_of_scan (hnamed : t.WellNamed)
    (h : w.scan t (.ofTree t w.root respectIgnore) = (.ok report, w', t')) {r : CommentRecord}
    (hr : r ∈ report.records) : w.filter.Lists r.file :=
  lists_of_report (scan_eq_ok h).1 (FileSource.heeds_ofTree hnamed _ _ _) hr

/-- The records of a report ascend by file. -/
theorem pairwise_file_of_scan
    (h : w.scan t (.ofTree t w.root respectIgnore) = (.ok report, w', t')) :
    report.records.Pairwise (·.file ≤ ·.file) := by
  obtain ⟨files, hlist, hrecords, -⟩ := scan_ofTree_eq_ok h
  rw [hrecords, reconcile_eq_map, List.pairwise_map]
  exact FileSource.pairwise_file_records (FileTree.pairwise_listFiles hlist) _ _

end Directory

/-- A scan succeeds if its source lists files and the records can be saved. -/
theorem exists_scan {source : FileSource} {files : List String} (hready : w.store.Ready t)
    (hlist : source.list w.filter = .ok files) :
    ∃ report t', w.scan t source = (.ok report, w.setComments report.records, t') ∧
      w.store.Ready t' := by
  obtain ⟨report, hreport⟩ : ∃ report, w.report t source = .ok report := by
    unfold Workspace.report
    rw [FileSource.scan, FileSource.scanInOrder_eq, hlist]
    exact ⟨_, rfl⟩
  obtain ⟨t', hsave, hready'⟩ := hready.exists_save report.records
  refine ⟨report, t', ?_, hready'⟩
  unfold Workspace.scan
  rw [hreport]
  dsimp only
  rw [hsave]

/-- A scan does not change the setup. -/
theorem sameSetup_of_scan {source : FileSource} {result : Except Error ScanReport}
    (h : w.scan t source = (result, w', t')) : SameSetup w w' := by
  rcases scan_cases h with ⟨_, -, rfl, -⟩ | ⟨_, _, -, -, -, rfl⟩ | ⟨_, -, -, -, rfl⟩
  · exact .refl w'
  · exact .refl w'
  · exact sameSetup_setComments w _

/-! ### Issues -/

/-- What is found is one of the records that are shown and saved. -/
theorem mem_of_find? {records : List CommentRecord} (hshown : w.tree.comments ⊆ records)
    (hsaved : w.store.load t ⊆ records) {file : String} {line : UInt32} {record : CommentRecord}
    (h : w.find? t file line = some record) :
    record ∈ records ∧ record.identity = (file, line) := by
  rcases Option.or_eq_some_iff.mp h with hfound | ⟨-, hfound⟩
  · obtain ⟨hmem, hid⟩ := mem_of_find?_isAt hfound
    exact ⟨hshown hmem, hid⟩
  · obtain ⟨hmem, hid⟩ := mem_of_find?_isAt hfound
    exact ⟨hsaved hmem, hid⟩

/-- The record that may be linked: the one that is found, which is not linked or is to be linked
anew, while its line still reads as it did. -/
theorem recordToLink_eq_ok {missing : List String} {file : String} {line : UInt32} {force : Bool}
    {record : CommentRecord} (h : w.recordToLink t missing file line force = .ok record) :
    w.find? t file line = some record ∧ (force = false → record.issueNumber = none) ∧
      WriteBack.readLine t w.root file line = .ok record.text := by
  unfold recordToLink at h
  split at h
  · simp at h
  · rename_i found hfind
    split at h
    · simp at h
    · rename_i hforce
      split at h
      · simp at h
      · split at h
        · simp at h
        · rename_i hline
          obtain rfl := Except.ok.inj h
          refine ⟨hfind, ?_, ?_⟩
          · rintro rfl
            cases hnumber : found.issueNumber with
            | none => rfl
            | some number => exact absurd rfl (hforce number hnumber)
          · cases hread : WriteBack.readLine t w.root file line with
            | error fault => simp [hread, Except.toOption] at hline
            | ok text =>
              rw [hread] at hline
              simpa [Except.toOption] using hline

/-- A comment may be linked if its line reads as it did, unless it is linked already. -/
theorem recordToLink_of_readLine {file : String} {line : UInt32} {force : Bool}
    {record : CommentRecord} (hfind : w.find? t file line = some record)
    (hforce : force = false → record.issueNumber = none)
    (hline : WriteBack.readLine t w.root file line = .ok record.text) :
    w.recordToLink t [] file line force = .ok record := by
  unfold recordToLink
  rw [hfind, hline]
  cases force with
  | true => simp [Except.toOption]
  | false => simp [hforce rfl, Except.toOption]

/-- A comment that is linked is not linked again without force. -/
theorem recordToLink_of_linked {missing : List String} {file : String} {line : UInt32}
    {record : CommentRecord} {number : UInt64} (hfind : w.find? t file line = some record)
    (hnumber : record.issueNumber = some number) :
    w.recordToLink t missing file line false = .error (.alreadyLinked file line number) := by
  unfold recordToLink
  rw [hfind]
  simp only [hnumber]

/-- A comment that is not known is not linked. -/
theorem recordToLink_of_find?_eq_none {missing : List String} {file : String} {line : UInt32}
    {force : Bool} (hfind : w.find? t file line = none) :
    w.recordToLink t missing file line force = .error (.commentNotFound file line) := by
  unfold recordToLink
  rw [hfind]

/-- A comment that may not be linked leaves all as it was, and the tracker is not asked. -/
theorem createIssue_of_error {τ : Type} [IssueTracker τ] {tracker : τ} {file : String}
    {line : UInt32} {force : Bool} {e : Error}
    (h : w.recordToLink t (IssueTracker.missingSettings tracker) file line force = .error e) :
    w.createIssue t tracker file line force = (.error e, w, tracker, t) := by
  unfold createIssue
  rw [h]

/-- A comment that may be linked is left as it is if the tracker fails. -/
theorem createIssue_of_tracker_error {τ : Type} [IssueTracker τ] {tracker tracker' : τ}
    {file : String} {line : UInt32} {force : Bool} {record : CommentRecord} {e : TrackerError}
    (hrecord : w.recordToLink t (IssueTracker.missingSettings tracker) file line force = .ok record)
    (hcreate : IssueTracker.createIssue tracker t record = (.error e, tracker', t')) :
    w.createIssue t tracker file line force = (.error (.tracker e), w, tracker', t') := by
  unfold createIssue
  rw [hrecord]
  dsimp only
  rw [hcreate]

/-- A comment that may be linked is linked if the tracker files an issue. -/
theorem createIssue_of_link {τ : Type} [IssueTracker τ] {tracker tracker' : τ} {file : String}
    {line : UInt32} {force : Bool} {record : CommentRecord} {info : IssueInfo} {t₁ : FileTree}
    {result : Except Error CreatedIssue}
    (hrecord : w.recordToLink t (IssueTracker.missingSettings tracker) file line force = .ok record)
    (hcreate : IssueTracker.createIssue tracker t record = (.ok info, tracker', t₁))
    (hlink : w.link t₁ record info = (result, w', t')) :
    w.createIssue t tracker file line force = (result, w', tracker', t') := by
  unfold createIssue
  rw [hrecord]
  dsimp only
  rw [hcreate]
  dsimp only
  rw [hlink]

/-- An issue is refused before the tracker is asked, or refused by the tracker, or linked. -/
theorem createIssue_cases {τ : Type} [IssueTracker τ] {tracker tracker' : τ} {file : String}
    {line : UInt32} {force : Bool} {result : Except Error CreatedIssue}
    (h : w.createIssue t tracker file line force = (result, w', tracker', t')) :
    (∃ e, w.recordToLink t (IssueTracker.missingSettings tracker) file line force = .error e ∧
        result = .error e ∧ w' = w ∧ t' = t) ∨
      (∃ record e, w.recordToLink t (IssueTracker.missingSettings tracker) file line force =
          .ok record ∧
        IssueTracker.createIssue tracker t record = (.error e, tracker', t') ∧
        result = .error (.tracker e) ∧ w' = w) ∨
      ∃ record info t₁, w.recordToLink t (IssueTracker.missingSettings tracker) file line force =
          .ok record ∧
        IssueTracker.createIssue tracker t record = (.ok info, tracker', t₁) ∧
        w.link t₁ record info = (result, w', t') := by
  unfold createIssue at h
  split at h
  · rename_i e hrecord
    simp only [Prod.mk.injEq] at h
    obtain ⟨rfl, rfl, rfl, rfl⟩ := h
    exact .inl ⟨e, hrecord, rfl, rfl, rfl⟩
  · rename_i record hrecord
    split at h
    · rename_i e tracker₁ t₁ hcreate
      simp only [Prod.mk.injEq] at h
      obtain ⟨rfl, rfl, rfl, rfl⟩ := h
      exact .inr (.inl ⟨record, e, hrecord, hcreate, rfl, rfl⟩)
    · rename_i info tracker₁ t₁ hcreate
      dsimp only at h
      generalize hlink : w.link t₁ record info = linked at h
      obtain ⟨result₁, w₁, t₂⟩ := linked
      simp only [Prod.mk.injEq] at h
      obtain ⟨rfl, rfl, rfl, rfl⟩ := h
      exact .inr (.inr ⟨record, info, t₁, hrecord, hcreate, hlink⟩)

/-! ### Links -/

/-- A record with the text that the file has for it after a marker has been written or not. -/
theorem identity_linkedRecord (record : CommentRecord) (number : UInt64) (marker : MarkerWrite) :
    (linkedRecord record number marker).identity = record.identity := by
  unfold linkedRecord
  split <;> rfl

/-- A linked record has the number of the issue. -/
theorem issueNumber_linkedRecord (record : CommentRecord) (number : UInt64)
    (marker : MarkerWrite) : (linkedRecord record number marker).issueNumber = some number := by
  unfold linkedRecord
  split <;> rfl

/-- Without a new marker the text of the record stays as it is. -/
theorem linkedRecord_of_not_inserted {record : CommentRecord} {number : UInt64}
    {marker : MarkerWrite} (h : ∀ text, marker ≠ .written (.inserted text)) :
    linkedRecord record number marker = record.withIssue number := by
  unfold linkedRecord
  split
  · exact absurd rfl (h _)
  · rfl

/-- A linked record is the record with the text and the number of the linked one. -/
theorem linkedRecord_eq (record : CommentRecord) (number : UInt64) (marker : MarkerWrite) :
    linkedRecord record number marker =
      record.linkedLike (linkedRecord record number marker) number := by
  unfold linkedRecord
  split <;> rfl

/-- The tree shows a linked record in the place of the one with its identity. -/
theorem comments_showLink {record : CommentRecord} {number : UInt64} {marker : MarkerWrite}
    (hnodup : (w.tree.comments.map identity).Nodup)
    (hrecord : ∀ r ∈ w.tree.comments, r.identity = record.identity → r = record) :
    (w.showLink (linkedRecord record number marker) number marker).tree.comments =
      w.tree.comments.map fun r =>
        if r.isAt record.file record.line then linkedRecord record number marker else r := by
  obtain ⟨hfile, hline⟩ := Prod.mk.inj (identity_linkedRecord record number marker)
  unfold showLink
  rw [hfile, hline]
  dsimp only
  split
  · rename_i text
    rw [comments_setComments, CommentTree.comments_update hnodup, List.map_map]
    refine List.map_congr_left fun r hr => ?_
    by_cases hat : r.isAt record.file record.line
    · have hat' : (r.withIssue number).isAt record.file record.line := hat
      simp only [Function.comp_apply, if_pos hat, if_pos hat']
    · simp only [Function.comp_apply, if_neg hat]
  · rename_i hmarker
    rw [CommentTree.comments_update hnodup]
    refine List.map_congr_left fun r hr => ?_
    by_cases hat : r.isAt record.file record.line
    · rw [if_pos hat, if_pos hat, hrecord r hr (isAt_iff.mp hat)]
      exact (linkedRecord_of_not_inserted hmarker).symm
    · rw [if_neg hat, if_neg hat]

/-- Showing a link does not change the setup. -/
theorem sameSetup_showLink (w : Workspace) (linked : CommentRecord) (number : UInt64)
    (marker : MarkerWrite) : SameSetup w (w.showLink linked number marker) := by
  unfold showLink
  dsimp only
  split <;> exact ⟨rfl, rfl, rfl, rfl⟩

/-- A link writes the marker or not, shows the linked record, and saves it or fails to. -/
theorem link_cases {record : CommentRecord} {info : IssueInfo}
    {result : Except Error CreatedIssue} (h : w.link t record info = (result, w', t')) :
    ∃ marker t₁ saved,
      w.writeMarker t record info.number = (marker, t₁) ∧
      w' = w.showLink (linkedRecord record info.number marker) info.number marker ∧
      w.store.save t₁ (StateStore.linkRecord (w.store.load t₁)
        (linkedRecord record info.number marker) info.number) = (t', saved) ∧
      result = saved.map fun _ =>
        { info, record := linkedRecord record info.number marker, marker } := by
  unfold link at h
  generalize hmarker : w.writeMarker t record info.number = written at h
  obtain ⟨marker, t₁⟩ := written
  dsimp only at h
  have hstore : (w.showLink (linkedRecord record info.number marker) info.number marker).store =
      w.store := (sameSetup_showLink w _ _ _).store
  rw [hstore, StateStore.recordIssue] at h
  generalize hsave : w.store.save t₁ (StateStore.linkRecord (w.store.load t₁)
    (linkedRecord record info.number marker) info.number) = written at h
  obtain ⟨t₂, saved⟩ := written
  refine ⟨marker, t₁, saved, rfl, ?_⟩
  cases saved with
  | error e =>
    simp only [Prod.mk.injEq] at h
    obtain ⟨rfl, rfl, rfl⟩ := h
    exact ⟨rfl, hsave, rfl⟩
  | ok _ =>
    simp only [Prod.mk.injEq] at h
    obtain ⟨rfl, rfl, rfl⟩ := h
    exact ⟨rfl, hsave, rfl⟩

/-- How a marker can have been written: into the file, or not at all. -/
theorem writeMarker_eq {record : CommentRecord} {number : UInt64} {marker : MarkerWrite}
    (h : w.writeMarker t record number = (marker, t')) :
    ∃ result, WriteBack.insert t w.root record.file record.line number (some record.text) =
        (t', result) ∧
      ∀ text, marker = .written (.inserted text) ↔ result = .ok (.inserted text) := by
  unfold writeMarker at h
  split at h
  · rename_i t₁ outcome hinsert
    obtain ⟨rfl, rfl⟩ := Prod.mk.inj h
    exact ⟨.ok outcome, hinsert, by simp⟩
  · rename_i t₁ fault hinsert
    obtain ⟨rfl, rfl⟩ := Prod.mk.inj h
    exact ⟨.error fault, hinsert, by simp⟩

/-! ### Markers -/

/-- What a marker that has been written changes: the line of a file below the root, and nothing else
that lasts. -/
structure Inserts (w : Workspace) (record : CommentRecord) (number : UInt64) (names : Location)
    (text : String) (t t' : FileTree) : Prop where
  content : ∃ content updated,
    t.readText (Path.join w.root.toList record.file.toList) = .ok content ∧
      WriteBack.insertInto content.toList record.line number (some record.text.toList) =
        .ok (some updated, .inserted text) ∧
      t'.readText (Path.join w.root.toList record.file.toList) = .ok (String.ofList updated)
  temporary :
    t'.get? (Path.location w.root.toList ++ WriteBack.temporaryNames names) = none
  frame : t.ChangesOnly [Path.location w.root.toList ++ WriteBack.temporaryNames names,
    Path.location w.root.toList ++ names] t'
  named : t.WellNamed → t'.WellNamed

/-- A marker is written, or the files stay as they are. -/
theorem writeMarker_cases {record : CommentRecord} {number : UInt64} {marker : MarkerWrite}
    {names : Location} (hne : names ≠ []) (hnames : AreNames names)
    (hfile : record.file = pathOf names) (h : w.writeMarker t record number = (marker, t')) :
    (t' = t ∧ ∀ text, marker ≠ .written (.inserted text)) ∨
      ∃ text, marker = .written (.inserted text) ∧ w.Inserts record number names text t t' := by
  obtain ⟨result, hinsert, hmarker⟩ := writeMarker_eq h
  have hplace : Path.location (Path.join w.root.toList record.file.toList) =
      Path.location w.root.toList ++ names := by
    rw [hfile, Path.location_join _ hne hnames]
  have htemporary : Path.location (WriteBack.temporaryPath
      (Path.join w.root.toList record.file.toList)) =
      Path.location w.root.toList ++ WriteBack.temporaryNames names := by
    rw [hfile, WriteBack.location_temporaryPath _ hne hnames]
  rcases WriteBack.insert_cases hinsert with ⟨ht, hnot⟩ |
    ⟨content, updated, text, hread, hinto, hresult, hnew, hgone, hframe, hnamed⟩
  · exact .inl ⟨ht, fun text hwritten => hnot text ((hmarker text).mp hwritten)⟩
  · rw [htemporary] at hgone hframe
    rw [hplace] at hframe
    exact .inr ⟨text, (hmarker text).mpr hresult, ⟨content, updated, hread, hinto, hnew⟩, hgone,
      hframe, hnamed⟩

/-- Whether a marker is written or not, it is written to one file by way of another one. -/
theorem changesOnly_writeMarker {record : CommentRecord} {number : UInt64} {marker : MarkerWrite}
    {names : Location} (hne : names ≠ []) (hnames : AreNames names)
    (hfile : record.file = pathOf names) (h : w.writeMarker t record number = (marker, t')) :
    t.ChangesOnly [Path.location w.root.toList ++ WriteBack.temporaryNames names,
        Path.location w.root.toList ++ names] t' ∧ (t.WellNamed → t'.WellNamed) := by
  rcases writeMarker_cases hne hnames hfile h with ⟨rfl, -⟩ | ⟨text, -, hinserts⟩
  · exact ⟨.refl _ _, id⟩
  · exact ⟨hinserts.frame, hinserts.named⟩

/-- No file that passes the filter and no temporary file for one is a file of the store. -/
theorem place_not_mem {name : String} (hname : name ∈ StateStore.ownNames)
    (hrejects : w.filter.accepts name = false) {names : Location}
    (haccepts : w.filter.accepts (pathOf names)) :
    w.store.place name ∉ [Path.location w.root.toList ++ WriteBack.temporaryNames names,
      Path.location w.root.toList ++ names] := by
  have hown : names ≠ [name] := by
    rintro rfl
    rw [pathOf_singleton, hrejects] at haccepts
    simp at haccepts
  have htemporary : WriteBack.temporaryNames names ≠ [name] :=
    WriteBack.temporaryNames_ne_ownName hname
  simp only [List.mem_cons, List.not_mem_nil, or_false, not_or]
  refine ⟨fun heq => htemporary ?_, fun heq => hown ?_⟩
  · exact (List.append_cancel_left heq).symm
  · exact (List.append_cancel_left heq).symm

end Workspace

end TrackedComments

import TrackedComments.Proofs.FileTree.Texts
import TrackedComments.Proofs.Glob.Suffix
import TrackedComments.Proofs.Scan.EveryLine
import TrackedComments.Proofs.Workspace

/-!
# Scanning twice

A scan writes into the directory that it looks at, and the next one completes its records from what
has been saved. Nevertheless it comes to the same report if nothing has happened in between, unless
the filter passes the files of the store: then the second scan reads what the first one has written.

## Main results

* `Workspace.filter_file_rescan`: a file that is not the store's own gives the same records again.
* `Workspace.rescan_same_iff`: when a second scan reports and saves the same records.
* `Workspace.rescan_differs`: a filter with which it does not.
-/

namespace TrackedComments

open CommentRecord

namespace Workspace

variable {w w₁ w₂ : Workspace} {t t₁ t₂ : FileTree} {report report' : ScanReport}

/-- A file that is none of the store's stands elsewhere. -/
theorem append_not_mem_ownPlaces {file : String} (hfile : file ∉ StateStore.ownNames)
    {names : Location} (hpath : file = pathOf names) :
    Path.location w.root.toList ++ names ∉ w.store.ownPlaces := by
  intro hmem
  obtain ⟨name, hname, heq⟩ := List.mem_map.mp hmem
  have hnames : names = [name] := (List.append_cancel_left heq).symm
  rw [hpath, hnames, pathOf_singleton] at hfile
  exact hfile hname

/-- A file that is not the store's own gives the same records again: it is listed again, reads as it
did, and what was remembered about its lines has been saved. -/
theorem filter_file_rescan (hnamed : t.WellNamed)
    (h : w.scan t (w.source t) = (.ok report, w₁, t₁))
    (h' : w₁.scan t₁ (w₁.source t₁) = (.ok report', w₂, t₂)) {file : String}
    (hfile : file ∉ StateStore.ownNames) :
    report'.records.filter (·.file == file) = report.records.filter (·.file == file) := by
  have hdistinct := nodup_identity_of_scan hnamed h
  obtain ⟨files, hlist, hrecords, hframe, hkeep⟩ := scan_ofTree_eq_ok h
  obtain ⟨files', hlist', hrecords', -⟩ := scan_ofTree_eq_ok h'
  obtain ⟨-, hsave, rfl⟩ := scan_eq_ok h
  have hload : (w.setComments report.records).store.load t₁ = report.records :=
    StateStore.load_of_save_ok hsave
  have hlist' : t₁.listFiles w.root w.config.respectGitignore w.filter = .ok files' := hlist'
  have hignore : ∀ loc ∈ w.store.ownPlaces, ¬ IsIgnoreFile loc :=
    fun loc => not_isIgnoreFile_of_mem_ownPlaces
  have hplace (names : Location) (hpath : file = pathOf names) :=
    append_not_mem_ownPlaces (w := w) hfile hpath
  have hlisted : file ∈ files' ↔ file ∈ files :=
    ⟨fun hmem => hframe.symm.mem_listFiles hignore hlist' hplace hmem hlist,
      fun hmem => hframe.mem_listFiles hignore hlist hplace hmem hlist'⟩
  rw [hrecords', hload, hrecords, filter_file_reconcile, filter_file_reconcile,
    FileSource.filter_file_records (FileTree.nodup_listFiles (hkeep hnamed) hlist'),
    FileSource.filter_file_records (FileTree.nodup_listFiles hnamed hlist), ← hrecords]
  by_cases hmem : file ∈ files
  · obtain ⟨names, content, hne, hget, -, hpath, -⟩ := (FileTree.mem_listFiles hlist).mp hmem
    have hnames := (areNames_append.mp (hnamed.of_get? hget)).2
    have hread : t₁.readSource w.root file = t.readSource w.root file := by
      refine hframe.readSource_eq ?_
      rw [hpath, Path.location_join _ hne hnames]
      exact hplace names hpath
    have hsame : (FileSource.ofTree t₁ w.root w.config.respectGitignore).recordsOf w.pattern file =
        (FileSource.ofTree t w.root w.config.respectGitignore).recordsOf w.pattern file := by
      simp only [FileSource.recordsOf, FileSource.scanFile, FileSource.ofTree, hread]
    rw [if_pos hmem, if_pos (hlisted.mpr hmem)]
    refine (congrArg (reconcile · report.records) hsame).trans
      (reconcile_of_subset ?_ (fun _ hr _ hr' => eq_of_identity_eq hdistinct hr hr') ?_)
    · exact fun r hr => FileSource.issueNumber_of_mem_recordsOf hr
    · rw [hrecords]
      intro r hr
      obtain ⟨fresh, hfresh, rfl⟩ := mem_reconcile.mp hr
      exact mem_reconcile.mpr ⟨fresh, List.mem_flatMap.mpr ⟨file, hmem, hfresh⟩, rfl⟩
  · rw [if_neg hmem, if_neg (mt hlisted.mp hmem)]
    rfl

/-- A second scan, with no change in between, reports and saves the same records exactly if the
files of the store give the same records in both scans; in particular if they do not pass the
filter. -/
theorem rescan_same_iff (hnamed : t.WellNamed)
    (h : w.scan t (w.source t) = (.ok report, w₁, t₁))
    (h' : w₁.scan t₁ (w₁.source t₁) = (.ok report', w₂, t₂)) :
    ((report'.records = report.records ∧ ∃ text,
        t₁.readText w.store.statePath.toList = .ok text ∧
          t₂.readText w.store.statePath.toList = .ok text) ↔
      ∀ name ∈ StateStore.ownNames, report'.records.filter (·.file == name) =
        report.records.filter (·.file == name)) ∧
    ((∀ name ∈ StateStore.ownNames, w.filter.accepts name = false) →
      report'.records = report.records) := by
  have hsetup := sameSetup_of_scan h
  obtain ⟨-, hsave, -⟩ := scan_eq_ok h
  obtain ⟨-, hsave', -⟩ := scan_eq_ok h'
  rw [hsetup.store] at hsave'
  have hsame (hown : ∀ name ∈ StateStore.ownNames, report'.records.filter (·.file == name) =
      report.records.filter (·.file == name)) : report'.records = report.records := by
    refine eq_of_filter_file_eq (pairwise_file_of_scan h') (pairwise_file_of_scan h) fun file => ?_
    by_cases hfile : file ∈ StateStore.ownNames
    · exact hown file hfile
    · exact filter_file_rescan hnamed h h' hfile
  refine ⟨⟨fun hrecords name _ => by rw [hrecords.1], fun hown => ?_⟩, fun hrejects => ?_⟩
  · have hrecords := hsame hown
    exact ⟨hrecords, _, StateStore.readText_of_save_ok hsave,
      hrecords ▸ StateStore.readText_of_save_ok hsave'⟩
  · have hnone {report : ScanReport} (hlists : ∀ r ∈ report.records, w.filter.Lists r.file)
        (name : String) (hname : name ∈ StateStore.ownNames) :
        report.records.filter (·.file == name) = [] := by
      refine List.filter_eq_nil_iff.mpr fun r hr hat => ?_
      obtain ⟨_, -, -, -, haccepts⟩ := hlists r hr
      rw [beq_iff_eq.mp hat, hrejects name hname] at haccepts
      simp at haccepts
    obtain ⟨_, -, -, -, hkeep⟩ := scan_ofTree_eq_ok h
    refine hsame fun name hname => ?_
    rw [hnone (fun r => lists_of_scan hnamed h) name hname,
      hnone (fun r hr => hsetup.filter ▸ lists_of_scan (hkeep hnamed) h' hr) name hname]

section Example

/-- A workspace in the current directory that takes every line of the files with an ending for a
comment. -/
def everyLineOf (suffix : String) : Workspace :=
  { root := "."
    config := { pattern := "()()", include_ := "*" ++ suffix, exclude := "" }
    pattern := .everyLine
    filter := .endingIn suffix
    tree := {} }

/-- In the current directory two scans succeed if the records can be saved. -/
theorem exists_scans_current (hroot : w.root = ".") (hready : w.store.Ready t) :
    ∃ report w₁ t₁ report' w₂ t₂, w.scan t (w.source t) = (.ok report, w₁, t₁) ∧
      w₁.scan t₁ (w₁.source t₁) = (.ok report', w₂, t₂) := by
  have hlist (t : FileTree) : ∃ files, (w.source t).list w.filter = .ok files := by
    rw [source, hroot]
    exact t.exists_listFiles_current _ _
  obtain ⟨files, hfiles⟩ := hlist t
  obtain ⟨report, t₁, h, hready₁⟩ := exists_scan hready hfiles
  obtain ⟨files', hfiles'⟩ := hlist t₁
  obtain ⟨report', t₂, h', -⟩ :=
    exists_scan (w := w.setComments report.records) hready₁ hfiles'
  exact ⟨report, _, t₁, report', _, t₂, h, h'⟩

/-- A directory with one comment, scanned twice. -/
theorem rescan_same_of_single : ∃ report w₁ t₁ report' w₂ t₂,
    (everyLineOf ".ts").scan (.single "a.ts" "x")
        ((everyLineOf ".ts").source (.single "a.ts" "x")) = (.ok report, w₁, t₁) ∧
      w₁.scan t₁ (w₁.source t₁) = (.ok report', w₂, t₂) ∧ report'.records = report.records := by
  have hfiles := FileTree.holdsTexts_single FileTree.isPlain_aTs FileTree.isText_x
  obtain ⟨report, w₁, t₁, report', w₂, t₂, h, h'⟩ :=
    exists_scans_current (w := everyLineOf ".ts") rfl hfiles.ready
  have hrejects : ∀ name ∈ StateStore.ownNames,
      (FileFilter.endingIn ".ts").accepts name = false := by
    decide
  exact ⟨report, w₁, t₁, report', w₂, t₂, h, h',
    (rescan_same_iff hfiles.wellNamed h h').2 hrejects⟩

theorem isText_brackets : FileTree.IsText "[]" := by
  unfold FileTree.IsText
  decide +kernel

/-- In an empty directory the first scan finds nothing and saves an empty list. The second one takes
that list for a file with a comment, if the filter passes files that end in `.json`. -/
theorem rescan_differs :
    ofConfig "." (everyLineOf ".json").config = .ok (everyLineOf ".json") ∧
      FileTree.empty.WellNamed ∧ ∃ report w₁ t₁ report' w₂ t₂,
        (everyLineOf ".json").scan .empty ((everyLineOf ".json").source .empty) =
            (.ok report, w₁, t₁) ∧
          w₁.scan t₁ (w₁.source t₁) = (.ok report', w₂, t₂) ∧
          report.records = [] ∧ report'.records ≠ [] := by
  have hempty := FileTree.holdsTexts_empty
  obtain ⟨report, w₁, t₁, report', w₂, t₂, h, h'⟩ :=
    exists_scans_current (w := everyLineOf ".json") rfl hempty.ready
  obtain ⟨files, hlist, hrecords, hframe, -⟩ := scan_ofTree_eq_ok h
  obtain ⟨files', hlist', hrecords', -⟩ := scan_ofTree_eq_ok h'
  obtain ⟨-, hsave, rfl⟩ := scan_eq_ok h
  have hnothing : report.records = [] := by
    have hfiles : files = [] := by
      refine List.eq_nil_iff_forall_not_mem.mpr fun file hfile => ?_
      obtain ⟨names, content, hne, hget, -⟩ := (FileTree.mem_listFiles hlist).mp hfile
      simp [FileTree.get?, FileTree.empty, hne] at hget
    rw [hrecords, hfiles]
    rfl
  have hread : t₁.readText (Path.join ".".toList StateStore.stateFile.toList) = .ok "[]" := by
    have hsaved := StateStore.readText_of_save_ok hsave
    rw [StateStore.statePath, String.toList_ofList, hnothing] at hsaved
    exact hsaved
  have hgives : CommentRecord.firstLine StateStore.stateFile "[]" ∈
      ((everyLineOf ".json").source t₁).recordsOf .everyLine StateStore.stateFile := by
    refine FileSource.mem_recordsOf.mpr
      ⟨"[]", FileTree.readSource_of_readText hread isText_brackets, ?_⟩
    rw [ScanPattern.scanContent_everyLine _ (by decide) (by decide) (by decide) (by decide)]
    exact List.mem_singleton_self _
  have hlisted : StateStore.stateFile ∈ files' := by
    have hignore : ∀ loc, IsIgnoreFile loc → t₁.get? loc = FileTree.empty.get? loc :=
      fun loc hloc => hframe.get?_eq loc fun hmem => not_isIgnoreFile_of_mem_ownPlaces hmem hloc
    have hvisits : FileTree.empty.Visits "." true [StateStore.stateFile] :=
      ⟨by decide, by decide⟩
    have hnode := (FileTree.read_eq_ok_iff.mp (FileTree.readText_eq_ok_iff.mp hread)).2
    rw [Path.location_join_name _ (StateStore.isName_of_mem_ownNames _ (by decide))] at hnode
    have haccepts : (FileFilter.endingIn ".json").accepts StateStore.stateFile := by decide
    exact (FileTree.mem_listFiles hlist').mpr ⟨[StateStore.stateFile], _, by simp, hnode,
      (FileTree.visits_congr hignore).mpr hvisits, (pathOf_singleton _).symm, haccepts⟩
  refine ⟨rfl, hempty.wellNamed, report, _, t₁, report', w₂, t₂, h, h', hnothing, ?_⟩
  rw [hrecords']
  exact List.ne_nil_of_mem (mem_reconcile.mpr
    ⟨_, List.mem_flatMap.mpr ⟨StateStore.stateFile, hlisted, hgives⟩, rfl⟩)

end Example

end Workspace

end TrackedComments

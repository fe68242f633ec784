import TrackedComments.Proofs.CommandLine.Operands
import TrackedComments.Proofs.Scan.DefaultPattern
import TrackedComments.Proofs.Source.StandardFilter
import TrackedComments.Proofs.Workspace.Found

/-!
# Comments that are addressed on the command line

An issue is asked for by a file and a line. The saved records are looked through first, and the
files are scanned only if none of them has the identity. So the file and the line that a scan
reports lead back to the record, before the records are saved as well as afterwards, unless the name
of the file holds a backslash: then the operand names another file.

## Main results

* `worksOn_of_selects`: what is done to the record that is found.
* `worksOn_of_scan`: which records of a scan are addressed by their file and line.
* `commentNotFound_of_backslash`: a record that is not.
-/

namespace TrackedComments

open CommentRecord

namespace CommandLine

variable {w w' : Workspace} {t t' : FileTree} {project file : String} {line : UInt32}
  {record : CommentRecord}

/-! ### Finding a comment -/

/-- A comment is found among the saved records, or else the files are scanned. -/
theorem findOrScan_eq_ok (h : findOrScan w t file line = (.ok w', t')) :
    (w' = w.loadPersisted t ∧ t' = t) ∨
      ∃ report, (w.loadPersisted t).scan t (w.source t) = (.ok report, w', t') := by
  unfold findOrScan at h
  dsimp only at h
  split at h
  · obtain ⟨hw, rfl⟩ := Prod.mk.inj h
    exact .inl ⟨(Except.ok.inj hw).symm, rfl⟩
  · split at h
    · simp at h
    · rename_i hscan
      obtain ⟨hw, rfl⟩ := Prod.mk.inj h
      obtain rfl := Except.ok.inj hw
      exact .inr ⟨_, hscan⟩

/-- To find a comment nothing is touched but the files of the store. -/
theorem changesOnly_of_findOrScan (h : findOrScan w t file line = (.ok w', t'))
    (hfind : w'.find? t' file line = some record) :
    w'.root = w.root ∧ t.ChangesOnly w.store.ownPlaces t' ∧ t'.Enters w.store.dir.toList := by
  rcases findOrScan_eq_ok h with ⟨rfl, rfl⟩ | ⟨report, hscan⟩
  · exact ⟨rfl, .refl _ _, Workspace.enters_of_mem_load (Workspace.mem_load_of_find? hfind)⟩
  · have hscan' : (w.loadPersisted t).scan t ((w.loadPersisted t).source t) =
        (.ok report, w', t') := hscan
    obtain ⟨files, hlist, -, hframe, -⟩ := Workspace.scan_ofTree_eq_ok hscan'
    have henters : t.Enters w.store.dir.toList :=
      (FileTree.enters_of_find (FileTree.listFiles_eq_ok hlist).1).1
    exact ⟨(Workspace.sameSetup_of_scan hscan).root, hframe,
      henters.of_directories hframe.directories⟩

/-- A run that creates an issue at an operand and a line comes to a record: it finds the record by
the identity that the operand names. -/
def Selects (t : FileTree) (project file : String) (line : UInt32) (record : CommentRecord) :
    Prop :=
  ∃ w w' t', Workspace.load t project = .ok w ∧
    findOrScan w t (normalizeFile file) line = (.ok w', t') ∧
    w'.find? t' (normalizeFile file) line = some record

/-- A comment that is selected is at the file and the line of the command. -/
theorem Selects.identity_eq (h : Selects t project file line record) :
    record.identity = (normalizeFile file, line) := by
  obtain ⟨_, _, _, -, -, hfind⟩ := h
  exact Workspace.identity_of_find? hfind

/-- A record that has been saved is found. -/
theorem selects_of_saved (hload : Workspace.load t project = .ok w)
    (hsaved : (w.store.load t).find? (·.isAt (normalizeFile file) line) = some record) :
    Selects t project file line record := by
  have hfind := Workspace.find?_setComments (w := w) (t := t) hsaved
  refine ⟨w, w.loadPersisted t, t, hload, ?_, hfind⟩
  unfold findOrScan
  dsimp only
  rw [Workspace.loadPersisted, hfind]
  rfl

/-- A record of a scan is found, unless another one with its identity has been saved. -/
theorem exists_selects_of_scan {report : ScanReport} (hload : Workspace.load t project = .ok w)
    (hscan : w.scan t (w.source t) = (.ok report, w', t'))
    (hfound : report.records.find? (·.isAt (normalizeFile file) line) = some record) :
    ∃ record', Selects t project file line record' := by
  cases hsaved : (w.store.load t).find? (·.isAt (normalizeFile file) line) with
  | some record' => exact ⟨record', selects_of_saved hload hsaved⟩
  | none =>
    have hnone : (w.loadPersisted t).find? t (normalizeFile file) line = none := by
      rw [Workspace.find?, Option.or_eq_none_iff]
      exact ⟨hsaved, hsaved⟩
    have hscan' : (w.loadPersisted t).scan t ((w.loadPersisted t).source t) =
        (.ok report, (w.loadPersisted t).setComments report.records, t') :=
      Workspace.scan_loadPersisted hscan
    refine ⟨record, w, (w.loadPersisted t).setComments report.records, t', hload, ?_,
      Workspace.find?_setComments hfound⟩
    unfold findOrScan
    dsimp only
    rw [hnone, hscan']
    rfl

/-! ### Working on a comment -/

/-- What a run that creates an issue at an operand and a line does to the record that it works on,
whatever the tracker answers. -/
structure WorksOn (t : FileTree) (project file : String) (line : UInt32)
    (record : CommentRecord) : Prop where
  selects : Selects t project file line record
  /-- The run does not miss a comment. -/
  found : ∀ {σ : Type} [Transport σ] (env : Environment) (token : Option String) (transport : σ)
    (force : Bool) (file' : String) (line' : UInt32),
    .failure (.commentNotFound file' line') ∉
      ((Command.createIssue file line force).run env token transport t project).1.notices
  /-- The tracker is asked for the record, or not at all if the record is refused as it is or
  settings are missing. -/
  asked : ∀ {τ : Type} [IssueTracker τ] (tracker tracker' : τ) (w : Workspace)
    (colored force : Bool) (result : Except Error String) (t' : FileTree),
    Workspace.load t project = .ok w →
    runCreateIssue colored force w t tracker (normalizeFile file) line = (result, tracker', t') →
    ∃ asked : List CommentRecord, (asked = [] ∨ asked = [record]) ∧
      runCreateIssue colored force w t (WatchedTracker.mk tracker []) (normalizeFile file) line =
        (result, ⟨tracker', asked⟩, t') ∧
      (asked = [] ↔ ∃ e, result = .error e ∧
        (e.IsRefusal ∨ IssueTracker.missingSettings tracker ≠ [] ∧
          e = .tracker (.notConfigured (IssueTracker.missingSettings tracker))))
  /-- No other source file is touched. -/
  changes : ∀ {σ : Type} [Transport σ] (env : Environment) (token : Option String) (transport : σ)
    (force : Bool), t.ChangesOnly
      (Workspace.placesOf project record.file ++ (StateStore.mk project).ownPlaces)
      ((Command.createIssue file line force).run env token transport t project).2.2

/-- A run creates an issue in the workspace in which the comment has been found. -/
theorem runCreateIssue_of_findOrScan {τ : Type} [IssueTracker τ] {tracker tracker' : τ}
    {t₁ : FileTree} {force : Bool} {w'' : Workspace} {result : Except Error CreatedIssue}
    (hfound : findOrScan w t file line = (.ok w', t₁))
    (hcreate : w'.createIssue t₁ tracker file line force = (result, w'', tracker', t'))
    (colored : Bool) : runCreateIssue colored force w t tracker file line =
      (result.map (createdText colored file line), tracker', t') := by
  unfold runCreateIssue
  rw [hfound]
  dsimp only
  rw [hcreate]
  cases result <;> rfl

/-- The command creates an issue with the tracker of the configuration. -/
theorem exists_createIssue_of_run {σ : Type} [Transport σ] {t₁ : FileTree}
    (hload : Workspace.load t project = .ok w)
    (hfound : findOrScan w t (normalizeFile file) line = (.ok w', t₁)) (env : Environment)
    (token : Option String) (transport : σ) (force : Bool) :
    ∃ (tracker tracker' : GitHubTracker σ) (result : Except Error CreatedIssue) (w'' : Workspace)
      (t' : FileTree),
      w'.createIssue t₁ tracker (normalizeFile file) line force = (result, w'', tracker', t') ∧
      (Command.createIssue file line force).run env token transport t project =
        (.ofResult (result.map (createdText env.colored (normalizeFile file) line)),
          tracker'.transport, t') := by
  let references := if t.isDirectory project.toList then env.references else ⟨none, none⟩
  let tracker : GitHubTracker σ := trackerOf w.config token references transport
  obtain ⟨⟨result, w'', tracker', t'⟩, hcreate⟩ :
    ∃ outcome, w'.createIssue t₁ tracker (normalizeFile file) line force = outcome := ⟨_, rfl⟩
  refine ⟨tracker, tracker', result, w'', t', hcreate, ?_⟩
  unfold Command.run
  dsimp only
  rw [hload]
  dsimp only
  rw [runCreateIssue_of_findOrScan hfound hcreate]

/-- A command tells of a failure if it has failed so. -/
theorem mem_notices_ofResult {result : Except Error String} {e : Error} :
    .failure e ∈ (Outcome.ofResult result).notices ↔ result = .error e := by
  cases result with
  | ok output => simp [Outcome.ofResult]
  | error e' =>
    have hhint : Notice.failure e ∉ ((hint? e').map Notice.hint).toList := by
      cases hint? e' <;> simp
    simp [Outcome.ofResult, Outcome.ofError, failureNotices, hhint, eq_comm]

/-- A run that comes to a record works on it. -/
theorem worksOn_of_selects (h : Selects t project file line record) :
    WorksOn t project file line record := by
  have hselects := h
  obtain ⟨w, w', t₁, hload, hfound, hfind⟩ := h
  refine ⟨hselects, ?_, ?_, ?_⟩
  · intro σ _ env token transport force file' line'
    obtain ⟨_, _, result, _, _, hcreate, hrun⟩ :=
      exists_createIssue_of_run hload hfound env token transport force
    have hne := Workspace.createIssue_ne_commentNotFound hfind hcreate file' line'
    rw [hrun, mem_notices_ofResult]
    cases result with
    | ok created => simp [Except.map]
    | error e => simpa [Except.map] using hne
  · intro τ _ tracker tracker' w₀ colored force result t' hload₀ hrun
    obtain rfl := Except.ok.inj (hload₀.symm.trans hload)
    obtain ⟨⟨created, w'', tracker₁, t₂⟩, hcreate⟩ :
      ∃ outcome, w'.createIssue t₁ tracker (normalizeFile file) line force = outcome := ⟨_, rfl⟩
    rw [runCreateIssue_of_findOrScan hfound hcreate] at hrun
    obtain ⟨rfl, rfl, rfl⟩ : created.map (createdText colored (normalizeFile file) line) = result ∧
        tracker₁ = tracker' ∧ t₂ = t' := by simpa using hrun
    refine ⟨_, Workspace.askedFor_of_find? hfind,
      runCreateIssue_of_findOrScan hfound (Workspace.createIssue_watched [] hcreate) colored, ?_⟩
    rw [Workspace.askedFor_eq_nil_iff hcreate]
    cases created <;> simp [Except.map]
  · intro σ _ env token transport force
    obtain ⟨_, _, _, _, _, hcreate, hrun⟩ :=
      exists_createIssue_of_run hload hfound env token transport force
    obtain ⟨hroot, hframe, henters⟩ := changesOnly_of_findOrScan hfound hfind
    rw [Workspace.store, ← hroot] at henters
    have hchanges := Workspace.changesOnly_createIssue henters (fun _ _ => rfl) hfind hcreate
    rw [Workspace.store, hroot, Workspace.root_of_load hload] at hchanges
    rw [Workspace.store, Workspace.root_of_load hload] at hframe
    rw [hrun]
    exact (hframe.mono (List.subset_append_right _ _)).trans hchanges

/-! ### Comments of a scan -/

/-- Where a scan succeeds, a comment is looked for with success or not. -/
theorem exists_findOrScan {report : ScanReport}
    (hscan : w.scan t (w.source t) = (.ok report, w', t')) (file : String) (line : UInt32) :
    ∃ w'' t'', findOrScan w t file line = (.ok w'', t'') := by
  have hscan' : (w.loadPersisted t).scan t ((w.loadPersisted t).source t) =
      (.ok report, (w.loadPersisted t).setComments report.records, t') :=
    Workspace.scan_loadPersisted hscan
  unfold findOrScan
  dsimp only
  split
  · exact ⟨_, _, rfl⟩
  · rw [hscan']
    exact ⟨_, _, rfl⟩

/-- A run that comes to no record says so. -/
theorem commentNotFound_of_not_selects {σ : Type} [Transport σ] {report : ScanReport}
    (hload : Workspace.load t project = .ok w)
    (hscan : w.scan t (w.source t) = (.ok report, w', t'))
    (hnone : ∀ record, ¬ Selects t project file line record) (env : Environment)
    (token : Option String) (transport : σ) (force : Bool) :
    ((Command.createIssue file line force).run env token transport t project).1 =
      .ofError (.commentNotFound (normalizeFile file) line) := by
  obtain ⟨w₁, t₁, hfound⟩ := exists_findOrScan hscan (normalizeFile file) line
  have hfind : w₁.find? t₁ (normalizeFile file) line = none :=
    Option.eq_none_iff_forall_ne_some.mpr fun record hfind =>
      hnone record ⟨w, w₁, t₁, hload, hfound, hfind⟩
  obtain ⟨tracker, _, _, _, _, hcreate, hrun⟩ :=
    exists_createIssue_of_run hload hfound env token transport force
  rw [Workspace.createIssue_of_error (Workspace.recordToLink_of_find?_eq_none hfind)] at hcreate
  obtain ⟨rfl, -⟩ := Prod.mk.inj hcreate
  rw [hrun]
  rfl

/-- The record that a run comes to has been saved, or there is the file that the operand names. -/
theorem saved_or_file_of_selects (hnamed : t.WellNamed) (hload : Workspace.load t project = .ok w)
    {names : Location} (hne : names ≠ []) (hnames : AreNames names)
    (hfile : normalizeFile file = pathOf names) (h : Selects t project file line record) :
    record ∈ w.store.load t ∨
      ∃ content, t.get? (Path.location project.toList ++ names) = some (.file content) := by
  have hidentity := h.identity_eq
  obtain ⟨w₀, w', t', hload₀, hfound, hfind⟩ := h
  obtain rfl := Except.ok.inj (hload₀.symm.trans hload)
  rcases findOrScan_eq_ok hfound with ⟨rfl, rfl⟩ | ⟨report, hscan⟩
  · exact .inl (Workspace.mem_load_of_find? hfind)
  · have hmem := Workspace.mem_report_of_find? hscan hfind
    have hroot : w₀.root = project := Workspace.root_of_load hload
    obtain ⟨content, hnode⟩ := Workspace.exists_file_of_scan hnamed hscan hmem hne hnames
      ((Prod.mk.inj hidentity).1.trans hfile)
    exact .inr ⟨content, hroot ▸ hnode⟩

/-- If there is no file that the operand names, no comment is found at the operand after a scan. -/
theorem not_selects_of_get?_eq_none {report : ScanReport} (hnamed : t.WellNamed)
    (hload : Workspace.load t project = .ok w)
    (hscan : w.scan t (w.source t) = (.ok report, w', t')) {names : Location} (hne : names ≠ [])
    (hnames : AreNames names) (hfile : normalizeFile file = pathOf names)
    (hnone : t.get? (Path.location project.toList ++ names) = none)
    (hown : Path.location project.toList ++ names ∉ (StateStore.mk project).ownPlaces) :
    ¬ Selects t' project file line record := by
  intro h
  obtain ⟨-, -, -, hframe, hkeep⟩ := Workspace.scan_ofTree_eq_ok hscan
  obtain ⟨-, hsave, -⟩ := Workspace.scan_eq_ok hscan
  have hroot : w.root = project := Workspace.root_of_load hload
  rw [Workspace.store, hroot] at hframe
  have hload' : Workspace.load t' project = .ok w := Workspace.load_of_changesOnly hframe hload
  rcases saved_or_file_of_selects (hkeep hnamed) hload' hne hnames hfile h with
    hsaved | ⟨content, hnode⟩
  · rw [StateStore.load_of_save_ok hsave] at hsaved
    obtain ⟨content, hnode⟩ := Workspace.exists_file_of_scan hnamed hscan hsaved hne hnames
      ((Prod.mk.inj h.identity_eq).1.trans hfile)
    rw [hroot, hnone] at hnode
    simp at hnode
  · rw [hframe.get?_eq _ hown, hnone] at hnode
    simp at hnode

/-- The file of a record is taken as it is if it holds no backslash. -/
theorem normalizeFile_of_scan {report : ScanReport} (hnamed : t.WellNamed)
    (hscan : w.scan t (w.source t) = (.ok report, w', t')) (hr : record ∈ report.records)
    (hslash : '\\' ∉ record.file.toList) : normalizeFile record.file = record.file := by
  obtain ⟨names, -, hnames, hfile, -⟩ := Workspace.lists_of_scan hnamed hscan hr
  rw [hfile] at hslash ⊢
  exact normalizeFile_pathOf hnames hslash

/-- Which records of a scan are addressed by their file and line. -/
theorem worksOn_of_scan {report : ScanReport} (hnamed : t.WellNamed)
    (hload : Workspace.load t project = .ok w)
    (hscan : w.scan t (w.source t) = (.ok report, w', t')) {r : CommentRecord}
    (hr : r ∈ report.records) :
    ('\\' ∉ r.file.toList → WorksOn t' project r.file r.line r ∧
      ∃ record, record.identity = r.identity ∧ WorksOn t project r.file r.line record) ∧
    ('\\' ∈ r.file.toList → ∀ t record, Selects t project r.file r.line record →
      record.identity = (normalizeFile r.file, r.line) ∧ record.identity ≠ r.identity) ∧
    (∀ root path (id : String), root ≠ [] → Path.relativeTo? root path = some id.toList →
      (normalizeFile id = id ↔ '\\' ∉ id.toList)) ∧
    Invocation.ofArguments ["create-issue", "--", r.file, toString r.line.toNat] =
      .ok { command := .createIssue r.file r.line false } := by
  have hdistinct := Workspace.nodup_identity_of_scan hnamed hscan
  obtain ⟨-, -, -, hframe, -⟩ := Workspace.scan_ofTree_eq_ok hscan
  obtain ⟨-, hsave, -⟩ := Workspace.scan_eq_ok hscan
  have hstore : w.store = ⟨project⟩ := congrArg StateStore.mk (Workspace.root_of_load hload)
  have hfind : report.records.find? (·.isAt r.file r.line) = some r :=
    find?_isAt_of_mem hdistinct hr r.isAt_self
  refine ⟨fun hslash => ?_, fun hslash t record h => ⟨h.identity_eq, ?_⟩,
    fun root path id hroot h => normalizeFile_eq_self_iff_of_relativeTo? hroot h,
    ofArguments_createIssue r.file r.line⟩
  · have hself : normalizeFile r.file = r.file := normalizeFile_of_scan hnamed hscan hr hslash
    have hload' : Workspace.load t' project = .ok w :=
      Workspace.load_of_changesOnly (hstore ▸ hframe) hload
    constructor
    · refine worksOn_of_selects (selects_of_saved hload' ?_)
      rw [StateStore.load_of_save_ok hsave, hself]
      exact hfind
    · have hfind' : report.records.find? (·.isAt (normalizeFile r.file) r.line) = some r := by
        rw [hself]
        exact hfind
      obtain ⟨record, hselects⟩ := exists_selects_of_scan hload hscan hfind'
      have hidentity := hselects.identity_eq
      rw [hself] at hidentity
      exact ⟨record, hidentity, worksOn_of_selects hselects⟩
  · intro heq
    have hfile : normalizeFile r.file = r.file := (Prod.mk.inj (h.identity_eq.symm.trans heq)).1
    exact not_mem_normalizeFile r.file (hfile.symm ▸ hslash)

section Example

/-- A comment on the first line of a file, as the default pattern reads it. -/
def commentIn (file : String) : CommentRecord :=
  { file, line := 1, text := "// ERROR: x", message := "x" }

/-- The workspace in the current directory, with the default configuration. -/
def defaultWorkspace : Workspace :=
  { root := "."
    config := {}
    pattern := ⟨ScanPattern.defaultSource, .ofRegex Pattern.Regex.annotated 2⟩
    filter := .standard
    tree := {} }

/-- A directory with a comment in one file. -/
def commentedFile (name : String) : FileTree := .single name "// ERROR: x"

/-- Without settings a scan uses the default pattern. -/
theorem scanPattern_default : ({} : Config).scanPattern = .ok defaultWorkspace.pattern := by
  have hpattern : ({} : Config).pattern = ScanPattern.defaultSource := rfl
  rw [Config.scanPattern, hpattern, ScanPattern.ofString_defaultSource]
  rfl

/-- Without settings a scan uses the standard filter. -/
theorem fileFilter_default : ({} : Config).fileFilter = .ok .standard := by
  have hok : (FileFilter.ofGlobs FileFilter.defaultInclude FileFilter.defaultExclude).toBool := by
    decide +kernel
  change FileFilter.ofGlobs FileFilter.defaultInclude FileFilter.defaultExclude = .ok .standard
  unfold FileFilter.standard
  cases h : FileFilter.ofGlobs FileFilter.defaultInclude FileFilter.defaultExclude with
  | error e => simp [h, Except.toBool] at hok
  | ok filter => rfl

/-- The default configuration is valid. -/
theorem ofConfig_default : Workspace.ofConfig "." {} = .ok defaultWorkspace := by
  have hvalid : ({} : Config).validate = .ok () := by
    rw [Config.validate, scanPattern_default, fileFilter_default]
    rfl
  rw [Workspace.ofConfig, hvalid, scanPattern_default, fileFilter_default]
  rfl

/-- Without a configuration file the workspace is the default one. -/
theorem load_commentedFile {name : String} (hname : name ≠ Config.fileName) :
    Workspace.load (commentedFile name) "." = .ok defaultWorkspace := by
  have hplace : Path.location (Config.path ".").toList = [Config.fileName] := by decide
  have hnone : ¬ (commentedFile name).pathExists (Config.path ".").toList := by
    rw [FileTree.pathExists_iff, hplace, commentedFile,
      FileTree.get?_single _ _ _ (List.cons_ne_nil _ _)]
    simp [hname.symm]
  exact Workspace.load_eq_ok_iff.mpr ⟨{}, if_neg hnone, ofConfig_default⟩

theorem isText_comment : FileTree.IsText "// ERROR: x" := by
  unfold FileTree.IsText
  decide +kernel

/-- The line with a comment is found, with its message. -/
theorem scanLine_comment : defaultWorkspace.pattern.scanLine "// ERROR: x".toList =
    some { message := "x", metadata := .empty, issueNumber := none } := by
  have hlf : '\n' ∉ "// ERROR: x".toList := by decide
  have hheading : FirstHeading (ScanPattern.looksAt "// ERROR: x".toList) []
      "// ERROR:".toList " x".toList :=
    ⟨by decide +kernel, ⟨[' '], List.all_eq_true.mp (by decide), rfl⟩, by decide,
      fun _ _ _ _ _ _ => Nat.zero_le _⟩
  have hblock : ∀ index, ¬ BlockAt (Chars.trimStart " x".toList) index := by
    intro index h
    have hlast : (Chars.trimStart " x".toList).getLast? ≠ some ']' := by decide +kernel
    exact hlast h.closed
  refine (ScanPattern.scanLine_of_no_block ScanPattern.ofString_defaultSource hlf hheading
    hblock).trans ?_
  decide +kernel

/-- The comment is among the records of the file. -/
theorem commentIn_mem_scanContent (name : String) :
    commentIn name ∈ defaultWorkspace.pattern.scanContent name "// ERROR: x" := by
  refine ScanPattern.mem_scanContent.mpr ⟨0, ⟨"// ERROR: x".toList, .none⟩, ?_, ?_⟩
  · rw [lines_of_not_mem (by decide) (by decide)]
    rfl
  · have htext : String.ofList (Chars.trim (dropCarriageReturn "// ERROR: x".toList)) =
        "// ERROR: x" := by decide +kernel
    rw [ScanPattern.scanNumbered, scanLine_comment]
    dsimp only
    rw [htext]
    rfl

/-- The first scan of the directory reports the comment. -/
theorem exists_scan_commentedFile {name : String} (hname : FileTree.IsPlain name)
    (haccepts : FileFilter.standard.accepts name)
    (hvisits : (commentedFile name).Visits "." true [name])
    (hstate : name ≠ StateStore.stateFile) :
    (commentedFile name).WellNamed ∧ ∃ report t',
      defaultWorkspace.scan (commentedFile name) (defaultWorkspace.source (commentedFile name)) =
        (.ok report, defaultWorkspace.setComments report.records, t') ∧
      commentIn name ∈ report.records ∧ defaultWorkspace.store.Ready t' := by
  have hfiles : (commentedFile name).HoldsTexts := FileTree.holdsTexts_single hname isText_comment
  obtain ⟨list, hlist⟩ :=
    (commentedFile name).exists_listFiles_current true defaultWorkspace.filter
  have hsource : (defaultWorkspace.source (commentedFile name)).list defaultWorkspace.filter =
      .ok list := hlist
  have hready : defaultWorkspace.store.Ready (commentedFile name) := hfiles.ready
  obtain ⟨report, t', hscan, hready⟩ := Workspace.exists_scan hready hsource
  refine ⟨hfiles.wellNamed, report, t', hscan, ?_, hready⟩
  obtain ⟨files, hfiles', hrecords, -⟩ := Workspace.scan_ofTree_eq_ok hscan
  have hnode : (commentedFile name).get? (Path.location ".".toList ++ [name]) =
      some (.file "// ERROR: x".toUTF8) := by
    rw [FileTree.location_current]
    exact (FileTree.get?_single _ _ [name] (by simp)).trans (if_pos rfl)
  have hlisted : name ∈ files := (FileTree.mem_listFiles hfiles').mpr
    ⟨[name], _, by simp, hnode, hvisits, (pathOf_singleton name).symm, haccepts⟩
  have hread : (commentedFile name).readSource "." name = .ok "// ERROR: x" :=
    FileTree.readSource_of_readText (FileTree.readText_single hname _) isText_comment
  have hsaved : defaultWorkspace.store.load (commentedFile name) = [] := by
    have hplace : defaultWorkspace.store.place StateStore.stateFile = [StateStore.stateFile] :=
      congrArg (· ++ [StateStore.stateFile]) FileTree.location_current
    refine StateStore.load_of_get?_eq_none ?_
    rw [hplace]
    refine (FileTree.get?_single _ _ _ (List.cons_ne_nil _ _)).trans (if_neg fun heq => ?_)
    exact hstate (List.singleton_inj.mp heq).symm
  rw [hrecords, hsaved]
  refine mem_reconcile.mpr ⟨commentIn name, List.mem_flatMap.mpr ⟨name, hlisted,
    FileSource.mem_recordsOf.mpr ⟨_, hread, commentIn_mem_scanContent name⟩⟩, ?_⟩
  rw [rememberedIssue_eq_none (by simp)]
  rfl

/-- A comment that is addressed after the scan and before it. -/
theorem worksOn_of_scan_commentedFile :
    ∃ report w' t', Workspace.load (commentedFile "a.ts") "." = .ok defaultWorkspace ∧
      defaultWorkspace.scan (commentedFile "a.ts")
          (defaultWorkspace.source (commentedFile "a.ts")) = (.ok report, w', t') ∧
      WorksOn t' "." "a.ts" 1 (commentIn "a.ts") ∧
      ∃ record, record.identity = ("a.ts", 1) ∧
        WorksOn (commentedFile "a.ts") "." "a.ts" 1 record := by
  have hload : Workspace.load (commentedFile "a.ts") "." = .ok defaultWorkspace :=
    load_commentedFile (by decide)
  have haccepts : FileFilter.standard.accepts "a.ts" :=
    (FileFilter.accepts_standard "a.ts").mpr (by decide)
  obtain ⟨hnamed, report, t', hscan, hmem, -⟩ :=
    exists_scan_commentedFile FileTree.isPlain_aTs haccepts ⟨by decide, by decide⟩ (by decide)
  obtain ⟨hafter, hbefore⟩ := (worksOn_of_scan hnamed hload hscan hmem).1 (by decide)
  exact ⟨report, _, t', hload, hscan, hafter, hbefore⟩

/-- A file with a backslash in its name. -/
theorem isPlain_backslash : FileTree.IsPlain "a\\b.ts" :=
  ⟨⟨by decide, by decide, by decide, by decide⟩, by decide, by decide⟩

/-- A comment in a file with a backslash in its name: the scan reports it, and by its file and line
no comment is found. -/
theorem commentNotFound_of_backslash :
    Workspace.load (commentedFile "a\\b.ts") "." = .ok defaultWorkspace ∧
      (commentedFile "a\\b.ts").WellNamed ∧ ∃ report w' t',
        defaultWorkspace.scan (commentedFile "a\\b.ts")
            (defaultWorkspace.source (commentedFile "a\\b.ts")) = (.ok report, w', t') ∧
        commentIn "a\\b.ts" ∈ report.records ∧
        ((Command.createIssue "a\\b.ts" 1 false).run { directory := "." } none
          NoNetwork.noNetwork t' ".").1 = .ofError (.commentNotFound "a/b.ts" 1) := by
  have hload : Workspace.load (commentedFile "a\\b.ts") "." = .ok defaultWorkspace :=
    load_commentedFile (by decide)
  have haccepts : FileFilter.standard.accepts "a\\b.ts" :=
    (FileFilter.accepts_standard "a\\b.ts").mpr (by decide)
  obtain ⟨hnamed, report, t', hscan, hmem, hready⟩ :=
    exists_scan_commentedFile isPlain_backslash haccepts ⟨by decide, by decide⟩ (by decide)
  obtain ⟨-, -, -, hframe, -⟩ := Workspace.scan_ofTree_eq_ok hscan
  obtain ⟨list, hlist⟩ := t'.exists_listFiles_current true defaultWorkspace.filter
  have hsource : (defaultWorkspace.source t').list defaultWorkspace.filter = .ok list := hlist
  obtain ⟨report', t'', hscan', -⟩ := Workspace.exists_scan hready hsource
  have hload' : Workspace.load t' "." = .ok defaultWorkspace :=
    Workspace.load_of_changesOnly hframe hload
  have hname : normalizeFile "a\\b.ts" = "a/b.ts" := by decide
  have hnames : AreNames ["a", "b.ts"] := List.forall_mem_cons.mpr
    ⟨⟨by decide, by decide, by decide, by decide⟩, areNames_singleton.mpr
      ⟨by decide, by decide, by decide, by decide⟩⟩
  have hpath : normalizeFile "a\\b.ts" = pathOf ["a", "b.ts"] := by decide
  refine ⟨hload, hnamed, report, _, t', hscan, hmem, ?_⟩
  rw [← hname]
  exact commentNotFound_of_not_selects hload' hscan'
    (fun _ => not_selects_of_get?_eq_none hnamed hload hscan (by simp) hnames hpath (by decide)
      (by decide)) _ _ _ _

end Example

end CommandLine

end TrackedComments

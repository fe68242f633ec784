import TrackedComments.Proofs.Session.Progress
import TrackedComments.Proofs.Session.Undisturbed
import TrackedComments.Tracker.Scripted

/-!
# The first steps of a session that nobody disturbs

A scan misses nothing if all files that pass the filter have a text. Then the tree shows what the
lines give, and an issue is filed for every record that it shows, unless the record is linked and
the issue is not forced.

## Main results

* `Session.exists_rescan`: when a scan misses nothing.
* `Session.exists_filing`: when an issue is filed.
* `Session.mem_shown_sample`: what the first scan shows.
-/

namespace TrackedComments

open CommentRecord

namespace Session

variable {s s' : Session} {settings : Bool → Prop} {respectIgnore : Bool}

/-! ### Scans -/

/-- Whether every file that passes the filter has a text, if it is there. -/
def Readable (s : Session) : Prop :=
  ∀ file, s.workspace.filter.Lists file → ¬ s.workspace.Gone s.files file →
    ∃ text, s.files.readText (Path.join s.workspace.root.toList file.toList) = .ok text ∧
      FileTree.IsText text

/-- A scan of a directory whose files can be read misses none of them. -/
theorem exists_rescan (settings : Bool → Prop) (hsettings : settings respectIgnore)
    (hnamed : s.files.WellNamed) (hready : s.workspace.store.Ready s.files)
    (hreadable : s.Readable) {files : List String}
    (hlist : s.files.listFiles s.workspace.root respectIgnore s.workspace.filter = .ok files) :
    ∃ report s', Step (.undisturbed s.workspace.root settings) s
        (.scanned (.ofTree s.files s.workspace.root respectIgnore) (.ok report)) s' ∧
      report.failedFiles = [] ∧ Rescans s respectIgnore report s' ∧
      s'.workspace.store.Ready s'.files := by
  have hlist' : (FileSource.ofTree s.files s.workspace.root respectIgnore).list s.workspace.filter =
      .ok files := hlist
  obtain ⟨report, s', hstep, hready'⟩ := exists_scan (.undisturbed s.workspace.root settings)
    ⟨respectIgnore, hsettings, rfl⟩ hready hlist'
  have hread : report.failedFiles = [] := by
    cases hstep with
    | scan _ hscan =>
      obtain ⟨files', hlist', -, hfailed⟩ :=
        Workspace.report_eq_ok (Workspace.scan_eq_ok hscan.scan_eq).1
      obtain rfl : files' = files := Except.ok.inj (hlist'.symm.trans hlist)
      refine List.eq_nil_iff_forall_not_mem.mpr fun file hfile => ?_
      obtain ⟨hmem, fault, hfault⟩ := (hfailed file).mp hfile
      obtain ⟨text, htext, hplain⟩ := hreadable file
        (FileTree.lists_of_mem_listFiles hnamed hlist hmem)
        (Workspace.not_gone_of_mem_listFiles hnamed hlist hmem)
      have hsource : s.files.readSource s.workspace.root file = .error fault := hfault
      rw [FileTree.readSource_of_readText htext hplain] at hsource
      simp at hsource
  refine ⟨report, s', hstep, hread, ?_, hready'⟩
  cases hstep with
  | scan _ hscan => exact rescans_of_scan hscan.scan_eq hread

/-- Files remain readable if none but those of the store change. -/
theorem Readable.of_changesOnly (h : s.Readable) (hsetup : s.workspace.SameSetup s'.workspace)
    (hrejects : ∀ name ∈ StateStore.ownNames, s.workspace.filter.accepts name = false)
    (hframe : s.files.ChangesOnly s.workspace.store.ownPlaces s'.files) : s'.Readable := by
  intro file hlists hthere
  rw [hsetup.filter] at hlists
  rw [hsetup.gone_iff] at hthere
  have hplace := Workspace.placeOf_not_mem_ownPlaces hrejects hlists
  obtain ⟨text, hread, htext⟩ := h file hlists fun hgone =>
    hthere (hgone.of_changesOnly hframe hplace)
  rw [hsetup.root]
  exact ⟨text, hframe.readText hplace hread, htext⟩

/-! ### Issues -/

/-- What an issue does to a session, if the system breaks nothing off. -/
structure FiledInFull (s : Session) (record : CommentRecord) (created : CreatedIssue)
    (s' : Session) : Prop extends Filed s record created s' where
  written : ∃ t, s.workspace.writeMarker s.files record created.info.number = (created.marker, t) ∧
    t.ChangesOnly s.workspace.store.ownPlaces s'.files

/-- An issue is filed for every record that is shown as its line reads, unless it is linked and the
issue is not forced. -/
theorem exists_filing (settings : Bool → Prop) (hs : Settled s)
    (hready : s.workspace.store.Ready s.files)
    (hrejects : s.workspace.filter.accepts StateStore.stateFile = false) {record : CommentRecord}
    (hmem : record ∈ s.shown) (hread : s.workspace.AsRead s.files record) (force : Bool)
    (hforce : force = false → record.issueNumber = none) (info : IssueInfo) :
    ∃ created s', Step (.undisturbed s.workspace.root settings) s
        (.created record.file record.line force (some (.ok info)) (.ok created)) s' ∧
      created.info = info ∧ FiledInFull s record created s' ∧
      s'.workspace.store.Ready s'.files := by
  have hfind : s.workspace.find? s.files record.file record.line = some record := by
    have hshown : s.workspace.tree.find? record.file record.line = some record :=
      find?_isAt_of_mem hs.distinct hmem record.isAt_self
    rw [Workspace.find?, hshown, Option.some_or]
  have hrecord := Workspace.recordToLink_of_readLine hfind hforce hread.readLine
  obtain ⟨⟨result, w, t⟩, hlink⟩ : ∃ outcome, s.workspace.link s.files record info = outcome :=
    ⟨_, rfl⟩
  obtain ⟨names, hne, hnames, hfile, -⟩ := hs.listed record hmem
  obtain ⟨marker, t₁, saved, hmarker, hw, hsave, hresult⟩ := Workspace.link_cases hlink
  have hframe := (Workspace.changesOnly_writeMarker hne hnames hfile hmarker).1
  obtain ⟨t₂, hsave', hready₂⟩ := (hready.of_changesOnly hframe).exists_save
    (StateStore.linkRecord (s.workspace.store.load t₁)
      (Workspace.linkedRecord record info.number marker) info.number)
  rw [hsave'] at hsave
  obtain ⟨rfl, rfl⟩ := Prod.mk.inj hsave
  rcases filed_of_link hs.toTracked hrejects hmem hread.readLine
    (Workspace.linkAttempt_of_link hlink) with ⟨_, _, rfl⟩ | ⟨created, rfl, rfl, hfiled⟩
  · simp [Except.map] at hresult
  · let tracker : ScriptedTracker := { script := [.ok created.info] }
    have hanswer : s.answer tracker record.file record.line force = some (.ok created.info) := by
      unfold answer
      rw [show IssueTracker.missingSettings tracker = [] from rfl, hrecord]
      rfl
    have hstore : w.store = s.workspace.store := by
      rw [hw]
      exact (Workspace.sameSetup_showLink _ _ _ _).store
    have hwritten : created.marker = marker :=
      congrArg CreatedIssue.marker (Except.ok.inj hresult)
    have hown := StateStore.changesOnly_save (hs.enters.of_directories hframe.directories) hsave'
    refine ⟨created, ⟨w, t₂⟩, ?_, rfl, ⟨hfiled, t₁, hwritten ▸ hmarker, hown⟩, hstore ▸ hready₂⟩
    rw [← hanswer]
    exact .create (fun _ => rfl) (.done (Workspace.createIssue_of_link hrecord rfl hlink))

/-- The marker of an issue is written if the line has room for it and the file can be replaced. -/
theorem FiledInFull.marker_eq {record : CommentRecord} {created : CreatedIssue}
    (h : FiledInFull s record created s') {content text : String} {updated : List Char}
    (hread : s.files.readText (Path.join s.workspace.root.toList record.file.toList) = .ok content)
    (hinto : WriteBack.insertInto content.toList record.line created.info.number
      (some record.text.toList) = .ok (some updated, .inserted text))
    (hreplace : ∃ t, WriteBack.replace s.files
      (Path.join s.workspace.root.toList record.file.toList) (String.ofList updated) =
        (t, .ok ())) :
    created.marker = .written (.inserted text) := by
  obtain ⟨t, hmarker, -⟩ := h.written
  obtain ⟨t', hinsert⟩ :=
    WriteBack.exists_insert (some record.text) hread hinto hreplace
  unfold Workspace.writeMarker at hmarker
  rw [hinsert] at hmarker
  exact (Prod.mk.inj hmarker).1.symm

/-- Files remain readable when an issue is filed, if the file with the marker does. -/
theorem FiledInFull.readable {record : CommentRecord} {created : CreatedIssue}
    (h : FiledInFull s record created s') (hs : Settled s)
    (hsetup : s.workspace.SameSetup s'.workspace)
    (hrejects : ∀ name ∈ StateStore.ownNames, s.workspace.filter.accepts name = false)
    (hreadable : s.Readable)
    (htext : ∀ content updated text,
      s.files.readText (Path.join s.workspace.root.toList record.file.toList) = .ok content →
      WriteBack.insertInto content.toList record.line created.info.number
        (some record.text.toList) = .ok (some updated, .inserted text) →
      FileTree.IsText (String.ofList updated)) : s'.Readable := by
  obtain ⟨t, hmarker, hframe⟩ := h.written
  obtain ⟨names, hne, hnames, hfile, -⟩ := hs.listed record h.mem
  rcases Workspace.writeMarker_cases hne hnames hfile hmarker with
    ⟨rfl, -⟩ | ⟨text, hwritten, hinserts⟩
  · exact hreadable.of_changesOnly hsetup hrejects hframe
  · intro file hlists hthere
    rw [hsetup.filter] at hlists
    rw [hsetup.gone_iff] at hthere
    rw [hsetup.root]
    have hplace := Workspace.placeOf_not_mem_ownPlaces hrejects hlists
    by_cases hown : file = record.file
    · subst hown
      obtain ⟨content, updated, hread, hinto, hread'⟩ := hinserts.content
      exact ⟨_, hframe.readText hplace hread', htext content updated text hread hinto⟩
    · have htemporary : file ≠ WriteBack.temporaryFile record.file := by
        rintro rfl
        exact hthere (h.gone_temporaryFile hs hrejects hwritten)
      obtain ⟨places, hframe', hplace'⟩ := (Workspace.markerAttempt_of_writeMarker
        hmarker).exists_changesOnly_of_ne (hs.listed record h.mem) hlists hown htemporary
      obtain ⟨content, hread, hcontent⟩ := hreadable file hlists fun hgone =>
        hthere ((hgone.of_changesOnly hframe' hplace').of_changesOnly hframe hplace)
      exact ⟨content, hframe.readText hplace (hframe'.readText hplace' hread), hcontent⟩

/-! ### A session to begin with -/

variable {suffix : String} {files : FileTree}

/-- In this session paths of names lead to these names. -/
theorem placeOf_sample {names : Location} (hne : names ≠ []) (hnames : AreNames names) :
    (sample suffix files).workspace.placeOf (pathOf names) = names := by
  rw [Workspace.placeOf_pathOf _ hne hnames]
  exact congrArg (· ++ names) FileTree.location_current

/-- A text in the root is read by its name. -/
theorem readText_sample {name text : String} (hname : FileTree.IsPlain name)
    (hnode : files.get? [name] = some (.file text.toUTF8)) :
    files.readText (Path.join ".".toList name.toList) = .ok text := by
  refine files.enters_current.readText hname ?_
  rw [FileTree.location_current]
  exact hnode

/-- In a tree with nothing but text files all files can be read. -/
theorem readable_sample (hfiles : files.HoldsTexts) : (sample suffix files).Readable := by
  rintro file ⟨names, hne, hnames, rfl, -⟩ hthere
  rw [Workspace.Gone, placeOf_sample hne hnames] at hthere
  obtain ⟨node, hnode⟩ := Option.ne_none_iff_exists'.mp hthere
  obtain ⟨name, text, rfl, hname, rfl, htext⟩ := hfiles names node hne hnode
  rw [pathOf_singleton]
  exact ⟨text, readText_sample hname hnode, htext⟩

/-- What has been set up as in the sample can be scanned. -/
theorem exists_rescan_sample
    (hsetup : (sample suffix files).workspace.SameSetup s.workspace) (hnamed : s.files.WellNamed)
    (hready : s.workspace.store.Ready s.files) (hreadable : s.Readable) :
    ∃ report s', Step (.undisturbed "." (· = false)) s
        (.scanned (.ofTree s.files "." false) (.ok report)) s' ∧
      report.failedFiles = [] ∧ Rescans s false report s' ∧
      s'.workspace.store.Ready s'.files := by
  obtain ⟨list, hlist⟩ := s.files.exists_listFiles_current false s.workspace.filter
  obtain ⟨report, s', hstep, hrescan⟩ := exists_rescan (s := s) (· = false) rfl hnamed hready
    hreadable (by rw [hsetup.root]; exact hlist)
  rw [hsetup.root] at hstep
  exact ⟨report, s', hstep, hrescan⟩

/-- Listings go to the files in the directory. -/
theorem visits_sample (hsetup : (sample suffix files).workspace.SameSetup s.workspace)
    {name : String} (hname : FileTree.IsPlain name) (hgit : name ≠ ".git")
    (haccepts : (FileFilter.endingIn suffix).accepts name) : s.Visits false name := by
  refine ⟨[name], by simp, areNames_singleton.mpr hname.isName, (pathOf_singleton name).symm,
    ?_, ?_⟩
  · rw [hsetup.filter]
    exact haccepts
  · have hroot : s.workspace.root = "." := hsetup.root
    rw [hroot]
    exact ⟨by decide, by simp [FileTree.isVisited, FileTree.rulesFor, isIgnored, hgit]⟩

/-- The first scan leaves the files as they are. -/
theorem readText_of_scan_sample {report : ScanReport} {s' : Session}
    (h : Rescans (sample suffix files) false report s')
    (hrejects : ∀ name ∈ StateStore.ownNames, (FileFilter.endingIn suffix).accepts name = false)
    {name text : String} (hname : FileTree.IsPlain name)
    (haccepts : (FileFilter.endingIn suffix).accepts name)
    (hnode : files.get? [name] = some (.file text.toUTF8)) :
    s'.files.readText (Path.join ".".toList name.toList) = .ok text := by
  have hplace : (sample suffix files).workspace.placeOf name ∉
      (sample suffix files).workspace.store.ownPlaces :=
    Workspace.placeOf_not_mem_ownPlaces hrejects (hname.lists haccepts)
  exact h.frame.readText hplace (readText_sample hname hnode)

/-- The first scan shows what the lines give. -/
theorem mem_shown_sample {report : ScanReport} {s' : Session}
    (h : Rescans (sample suffix files) false report s')
    (hfresh : files.get? [StateStore.stateFile] = none) {name text : String}
    (hname : FileTree.IsPlain name) (hgit : name ≠ ".git")
    (haccepts : (FileFilter.endingIn suffix).accepts name)
    (hnode : files.get? [name] = some (.file text.toUTF8)) {fresh : CommentRecord}
    (hgives : fresh ∈ ScanPattern.everyLine.scanContent name text) : fresh ∈ s'.shown := by
  obtain ⟨list, hlist, hmem⟩ := h.listed
  obtain rfl := ScanPattern.file_of_mem hgives
  have hstate : (sample suffix files).workspace.store.place StateStore.stateFile =
      [StateStore.stateFile] := congrArg (· ++ [StateStore.stateFile]) FileTree.location_current
  have hsaved : (sample suffix files).saved = [] :=
    StateStore.load_of_get?_eq_none (hstate ▸ hfresh)
  have hread := readText_sample hname hnode
  have hvisits : (sample suffix files).Visits false fresh.file :=
    visits_sample (.refl _) hname hgit haccepts
  rw [h.shown, hmem]
  refine ⟨fresh, hvisits.mem_files hread hlist, ⟨text, hread, hgives⟩, ?_⟩
  rw [hsaved, rememberedIssue_eq_none (by simp), Option.or_none]
  rfl

/-- An issue to file. -/
def sampleIssue : IssueInfo :=
  { number := 7, url := "", htmlUrl := "" }

/-- The temporary file for the file of an issue is another one. -/
theorem Event.not_overwrites_aTs {line : UInt32} {force : Bool}
    {answer : Option (Except TrackerError IssueInfo)} {result : Except Error CreatedIssue} :
    ¬ (Event.created "a.ts" line force answer result).Overwrites "a.ts" := by
  rintro ⟨other, _, _, _, _, heq, -, hfile⟩
  obtain ⟨rfl, -⟩ := Event.created.inj heq
  exact absurd hfile (by decide)

theorem insertInto_x : WriteBack.insertInto "x".toList 1 sampleIssue.number (some "x".toList) =
    .ok (some "x [GH-#7]".toList, .inserted "x [GH-#7]") := by
  decide +kernel

/-- The line with the marker is a text. -/
theorem isText_of_insertInto_x {updated : List Char} {marked : String}
    (h : WriteBack.insertInto "x".toList 1 sampleIssue.number (some "x".toList) =
      .ok (some updated, .inserted marked)) : FileTree.IsText (String.ofList updated) := by
  obtain ⟨hupdated, -⟩ := Prod.mk.inj (Except.ok.inj (h.symm.trans insertInto_x))
  rw [Option.some.inj hupdated, String.ofList_toList]
  unfold FileTree.IsText
  decide +kernel

/-- The first issue after the first scan of the files in a directory. -/
theorem exists_filed_sample (hfiles : files.HoldsTexts)
    (hrejects : ∀ name ∈ StateStore.ownNames, (FileFilter.endingIn suffix).accepts name = false)
    (hfresh : files.get? [StateStore.stateFile] = none) {name text : String}
    (hname : FileTree.IsPlain name) (hgit : name ≠ ".git")
    (haccepts : (FileFilter.endingIn suffix).accepts name)
    (hnode : files.get? [name] = some (.file text.toUTF8)) {fresh : CommentRecord}
    (hgives : fresh ∈ ScanPattern.everyLine.scanContent name text) (force : Bool)
    (hforce : force = false → fresh.issueNumber = none) (info : IssueInfo)
    (htext : ∀ updated marked, WriteBack.insertInto text.toList fresh.line info.number
      (some fresh.text.toList) = .ok (some updated, .inserted marked) →
      FileTree.IsText (String.ofList updated)) :
    ∃ report s₁ created s₂, Step (.undisturbed "." (· = false)) (sample suffix files)
        (.scanned (.ofTree files "." false) (.ok report)) s₁ ∧
      report.failedFiles = [] ∧ Rescans (sample suffix files) false report s₁ ∧
      Step (.undisturbed "." (· = false)) s₁
        (.created name fresh.line force (some (.ok info)) (.ok created)) s₂ ∧
      created.info = info ∧ FiledInFull s₁ fresh created s₂ ∧
      s₂.workspace.store.Ready s₂.files ∧ s₂.Readable := by
  obtain ⟨report, s₁, hscan, hread, hrescans, hready₁⟩ := exists_rescan_sample
    (s := sample suffix files) (.refl _) hfiles.wellNamed hfiles.ready
    (readable_sample hfiles)
  obtain ⟨hs₁, hrows₁⟩ :=
    settled_of_scan (s := sample suffix files) hfiles.wellNamed hrejects hscan hread
  have hsetup₁ := hscan.sameSetup
  obtain rfl := ScanPattern.file_of_mem hgives
  have hmem := mem_shown_sample hrescans hfresh hname hgit haccepts hnode hgives
  have hrejects₁ : ∀ name ∈ StateStore.ownNames, s₁.workspace.filter.accepts name = false := by
    rw [hsetup₁.filter]
    exact hrejects
  obtain ⟨created, s₂, hcreate, hinfo, hfiled, hready₂⟩ :=
    exists_filing (· = false) hs₁ hready₁ (hrejects₁ _ (by decide)) hmem
      (hrows₁ fresh hmem) force hforce info
  rw [hsetup₁.root] at hcreate
  have hreadable₁ := (readable_sample hfiles).of_changesOnly hsetup₁ hrejects hrescans.frame
  refine ⟨report, s₁, created, s₂, hscan, hread, hrescans, hcreate, hinfo, hfiled, hready₂,
    hfiled.readable hs₁ hcreate.sameSetup hrejects₁ hreadable₁ ?_⟩
  intro content updated marked hcontent hinto
  have htext₁ := readText_of_scan_sample hrescans hrejects hname haccepts hnode
  rw [hsetup₁.root] at hcontent
  obtain rfl : content = text := Except.ok.inj (hcontent.symm.trans htext₁)
  exact htext updated marked (hinfo ▸ hinto)

/-- The first issue after the first scan of a single line. -/
theorem exists_filed_single {text : String} (htext : FileTree.IsText text)
    (hgives : firstLine "a.ts" text ∈ ScanPattern.everyLine.scanContent "a.ts" text) (force : Bool)
    (hforce : force = false → Marker.find? text.toList = none)
    (hmarked : ∀ updated marked, WriteBack.insertInto text.toList 1 sampleIssue.number
      (some text.toList) = .ok (some updated, .inserted marked) →
      FileTree.IsText (String.ofList updated)) :
    ∃ report s₁ created s₂,
      Step (.undisturbed "." (· = false)) (sample ".ts" (.single "a.ts" text))
        (.scanned (.ofTree (.single "a.ts" text) "." false) (.ok report)) s₁ ∧
      report.failedFiles = [] ∧
      Step (.undisturbed "." (· = false)) s₁
        (.created "a.ts" 1 force (some (.ok sampleIssue)) (.ok created)) s₂ ∧
      created.info = sampleIssue ∧ Settled s₁ ∧
      FiledInFull s₁ (firstLine "a.ts" text) created s₂ ∧
      s₂.workspace.store.Ready s₂.files ∧ s₂.Readable := by
  have hfiles := FileTree.holdsTexts_single FileTree.isPlain_aTs htext
  have hrejects : ∀ name ∈ StateStore.ownNames, (FileFilter.endingIn ".ts").accepts name = false :=
    rejects_ts (.single "a.ts" text)
  obtain ⟨report, s₁, created, s₂, hscan, hread, -, hcreate, hinfo, hfiled, hready, hreadable⟩ :=
    exists_filed_sample hfiles hrejects (FileTree.get?_single _ _ _ (by decide))
      FileTree.isPlain_aTs (by decide) (by decide) (FileTree.get?_single _ _ _ (by decide)) hgives
      force hforce sampleIssue hmarked
  have hs₁ := (settled_of_scan (s := sample ".ts" (.single "a.ts" text)) hfiles.wellNamed
    hrejects hscan hread).1
  exact ⟨report, s₁, created, s₂, hscan, hread, hcreate, hinfo, hs₁, hfiled, hready, hreadable⟩

end Session

end TrackedComments

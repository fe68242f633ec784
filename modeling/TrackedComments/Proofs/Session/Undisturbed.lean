import TrackedComments.Proofs.Session.InStep
import TrackedComments.Proofs.Workspace.Lines

/-!
# Sessions that nobody disturbs

If nobody else changes files, all listed files can be read and all saves succeed, then a step does
one of three things: it rescans the files, it files an issue, or it changes nothing that matters. So
every record that the tree shows remains what its line gives, unless its file has the name of the
temporary file of another one. Then a write-back overwrites it, and the system may break off the
write-back before the temporary file is moved away.

## Main results

* `Session.step_cases`: what a step of such a session does.
* `Session.gives_of_step`: a line changes only by an issue that is filed for it.
* `Session.Filed.gives`: what a line gives after an issue has been filed for it.
* `Session.rowsAsRead_of_step`, `Session.rowsAsRead_of_run`: the records of a file remain what their
  lines give.
-/

namespace TrackedComments

open CommentRecord

/-- A record as a rescan reports it: with the number of the marker on its line, or else with the
number that it has. -/
def CommentRecord.rescanned (r : CommentRecord) : CommentRecord :=
  r.withNumber ((Marker.find? r.text.toList).or r.issueNumber)

namespace Session

/-- Scans of the directory at a root with one of the given settings for ignore rules, and no other
hands. -/
def Surroundings.undisturbed (root : String) (settings : Bool → Prop) : Surroundings where
  scans t source := ∃ respectIgnore, settings respectIgnore ∧ source = .ofTree t root respectIgnore
  edits t t' := t' = t

/-- Whether all files that a scan lists have been read, and no save has failed. -/
def Event.Undisturbed : Event → Prop
  | .scanned _ (.ok report) => report.failedFiles = []
  | .scanned _ (.error (.stateSave _ _)) => False
  | .created _ _ _ _ (.error (.stateSave _ _)) => False
  | _ => True

/-- Whether an event neither changes what is shown nor touches a file. -/
def Event.IsQuiet : Event → Prop
  | .scanned _ (.ok _) => False
  | .created _ _ _ answer result =>
    (∀ info, answer ≠ some (.ok info)) ∧ ∀ created, result ≠ .ok created
  | _ => True

/-- Whether a marker has been written by way of a temporary file with a name, or was to be written
and has not been. -/
def Event.Overwrites (event : Event) (file : String) : Prop :=
  ∃ other line force answer created,
    event = .created other line force answer (.ok created) ∧
      created.marker ≠ .written .alreadyMarked ∧ file = WriteBack.temporaryFile other

/-- A session in which tree and saved records are in step. -/
structure Settled (s : Session) : Prop extends Tracked s where
  same : s.saved = s.shown

/-- What a rescan does to a session. -/
structure Rescans (s : Session) (respectIgnore : Bool) (report : ScanReport) (s' : Session) :
    Prop where
  frame : s.files.ChangesOnly s.workspace.store.ownPlaces s'.files
  shown : s'.shown = report.records
  listed : ∃ files,
    s.files.listFiles s.workspace.root respectIgnore s.workspace.filter = .ok files ∧
    ∀ r, r ∈ report.records ↔ ∃ fresh, fresh.file ∈ files ∧ s.workspace.Gives s.files fresh ∧
      r = fresh.withNumber (fresh.issueNumber.or (rememberedIssue s.saved fresh.file fresh.line))

/-- What an issue does to a session, if it is filed for a record. -/
structure Filed (s : Session) (record : CommentRecord) (created : CreatedIssue) (s' : Session) :
    Prop where
  mem : record ∈ s.shown
  read : WriteBack.readLine s.files s.workspace.root record.file record.line = .ok record.text
  linked : created.record = Workspace.linkedRecord record created.info.number created.marker
  shown : s'.shown = replaced s.shown created.record
  files : ∃ t, s.workspace.MarkerAttempt s.files record created.info.number created.marker t ∧
    t.ChangesOnly s.workspace.store.ownPlaces s'.files

/-- Whether a listing goes to a file. -/
def Visits (s : Session) (respectIgnore : Bool) (file : String) : Prop :=
  ∃ names, names ≠ [] ∧ AreNames names ∧ file = pathOf names ∧ s.workspace.filter.accepts file ∧
    s.files.Visits s.workspace.root respectIgnore names

variable {s s' : Session} {event : Event} {fresh r : CommentRecord} {settings : Bool → Prop}

/-! ### Steps -/

/-- Other hands that change nothing are among those that leave the state file alone. -/
theorem Step.outside {root : String} (h : Step (.undisturbed root settings) s event s')
    (hnamed : s.files.WellNamed) : Step (.outside root) s event s' := by
  cases h with
  | scan hsource hscan =>
    obtain ⟨respectIgnore, -, hsource⟩ := hsource
    exact .scan ⟨respectIgnore, hsource⟩ hscan
  | load => exact .load s
  | create hedits hcreate =>
    refine .create (fun record => ?_) hcreate
    rw [hedits record]
    exact ⟨hnamed, rfl⟩
  | edit hedit =>
    obtain rfl := hedit
    exact .edit ⟨hnamed, rfl⟩

/-- Without a failed save, tree and saved records remain in step. -/
theorem Event.Undisturbed.outOfStep_eq_false (h : event.Undisturbed) :
    outOfStep false event = false := by
  unfold outOfStep
  split
  · rfl
  · rfl
  · exact h.elim
  · rfl

/-- Every step leaves tree and saved records in step. -/
theorem settled_step (hs : Settled s)
    (hrejects : s.workspace.filter.accepts StateStore.stateFile = false)
    (h : Step (.undisturbed s.workspace.root settings) s event s') (hevent : event.Undisturbed) :
    Settled s' := by
  obtain ⟨htracked, hsame⟩ := tracked_step hs.toTracked hrejects (h.outside hs.named)
  exact ⟨htracked, hsame false (fun _ => hs.same) hevent.outOfStep_eq_false⟩

/-- A scan that misses no file rescans the files. -/
theorem rescans_of_scan {respectIgnore : Bool} {report : ScanReport} {w : Workspace} {t : FileTree}
    (h : s.workspace.scan s.files (.ofTree s.files s.workspace.root respectIgnore) =
      (.ok report, w, t)) (hread : report.failedFiles = []) :
    Rescans s respectIgnore report ⟨w, t⟩ := by
  obtain ⟨hreport, hsave, rfl⟩ := Workspace.scan_eq_ok h
  obtain ⟨files, hlist, hrecords, hfailed⟩ := Workspace.report_eq_ok hreport
  have hlist : s.files.listFiles s.workspace.root respectIgnore s.workspace.filter = .ok files :=
    hlist
  have henters := (FileTree.enters_of_find (FileTree.listFiles_eq_ok hlist).1).1
  refine ⟨StateStore.changesOnly_save henters hsave, rfl, files, hlist, fun r => ?_⟩
  rw [hrecords, mem_reconcile]
  constructor
  · rintro ⟨fresh, hfresh, rfl⟩
    obtain ⟨file, hfile, hmem⟩ := List.mem_flatMap.mp hfresh
    obtain rfl := FileSource.file_of_mem_recordsOf hmem
    obtain ⟨text, htext, hmem⟩ := FileSource.mem_recordsOf.mp hmem
    exact ⟨fresh, hfile, ⟨text, FileTree.readText_of_readSource htext, hmem⟩, rfl⟩
  · rintro ⟨fresh, hfile, hgives, rfl⟩
    refine ⟨fresh, List.mem_flatMap.mpr ⟨fresh.file, hfile, ?_⟩, rfl⟩
    cases hsource : s.files.readSource s.workspace.root fresh.file with
    | error fault =>
      have hmissed := (hfailed fresh.file).mpr ⟨hfile, fault, hsource⟩
      simp [hread] at hmissed
    | ok text =>
      have hmem := hgives.mem_scanContent (FileTree.readText_of_readSource hsource)
      exact FileSource.mem_recordsOf.mpr ⟨text, hsource, hmem⟩

/-- A link in a session that nobody disturbs files an issue, unless it cannot be saved. -/
theorem filed_of_link (hs : Tracked s)
    (hrejects : s.workspace.filter.accepts StateStore.stateFile = false) {record : CommentRecord}
    {info : IssueInfo} {result : Except Error CreatedIssue} {w : Workspace} {t : FileTree}
    (hmem : record ∈ s.shown)
    (hread : WriteBack.readLine s.files s.workspace.root record.file record.line = .ok record.text)
    (hlink : s.workspace.LinkAttempt s.files record info result w t) :
    (∃ path message, result = .error (.stateSave path message)) ∨
      ∃ created, result = .ok created ∧ created.info = info ∧ Filed s record created ⟨w, t⟩ := by
  obtain ⟨linked, -, -, hshown, hresult⟩ :=
    link_replaces hs hrejects hs.named rfl hmem hlink
  obtain ⟨marker, t₁, saved, hmarker, -, hsave, hresult'⟩ := hlink
  rcases hresult with ⟨path, message, rfl, -⟩ | ⟨marker', rfl, -⟩
  · exact .inl ⟨path, message, rfl⟩
  · cases saved with
    | error e => simp [Except.map] at hresult'
    | ok _ =>
      obtain ⟨rfl, rfl⟩ : linked = Workspace.linkedRecord record info.number marker ∧
          marker' = marker := by simpa [Except.map] using hresult'
      obtain ⟨names, hne, hnames, hfile, -⟩ := hs.listed record hmem
      obtain ⟨hframe, -⟩ := hmarker.changesOnly hne hnames hfile
      refine .inr ⟨_, rfl, rfl, hmem, hread, rfl, hshown, t₁, hmarker, ?_⟩
      exact StateStore.changesOnly_save (hs.enters.of_directories hframe.directories) hsave.save_eq

/-- A step of a session that nobody disturbs rescans the files, files an issue, or is quiet. -/
theorem step_cases (hs : Settled s)
    (hrejects : s.workspace.filter.accepts StateStore.stateFile = false)
    (h : Step (.undisturbed s.workspace.root settings) s event s') (hevent : event.Undisturbed) :
    (∃ respectIgnore report, settings respectIgnore ∧
        event = .scanned (.ofTree s.files s.workspace.root respectIgnore) (.ok report) ∧
        Rescans s respectIgnore report s') ∨
      (∃ record force created,
        event = .created record.file record.line force (some (.ok created.info)) (.ok created) ∧
          (force = false → record.issueNumber = none) ∧ Filed s record created s') ∨
      (event.IsQuiet ∧ s'.shown = s.shown ∧ s'.files = s.files) := by
  cases h with
  | scan hsource hscan =>
    rename_i source result w t
    obtain ⟨respectIgnore, hsetting, rfl⟩ := hsource
    rcases hscan.cases with ⟨e, rfl, rfl, rfl⟩ | ⟨report, e, hsave, rfl, -⟩ | ⟨report, hdone, rfl⟩
    · exact .inr (.inr ⟨trivial, rfl, rfl⟩)
    · obtain ⟨message, rfl⟩ := hsave.exists_message
      exact hevent.elim
    · exact .inl ⟨respectIgnore, report, hsetting, rfl, rescans_of_scan hdone hevent⟩
  | load => exact .inr (.inr ⟨trivial, hs.same, rfl⟩)
  | edit hedit =>
    obtain rfl := hedit
    exact .inr (.inr ⟨trivial, rfl, rfl⟩)
  | create hedits hcreate =>
    rename_i τ _ tracker file line force result w t
    -- the tracker leaves the files alone
    have hsame {record : CommentRecord} {response : Except TrackerError IssueInfo} {tracker' : τ}
        {t₁ : FileTree} (hcreated : IssueTracker.createIssue tracker s.files record =
          (response, tracker', t₁)) : t₁ = s.files := by
      have hedit := hedits record
      rw [hcreated] at hedit
      exact hedit
    rcases hcreate.cases with ⟨e, hrefused, rfl, rfl, rfl⟩ |
      ⟨record, e, _, hrecord, hcreated, rfl, rfl⟩ |
      ⟨record, info, _, t₁, hrecord, hcreated, hlink⟩
    · refine .inr (.inr ⟨⟨?_, by simp⟩, rfl, rfl⟩)
      simp [answer, hrefused]
    · refine .inr (.inr ⟨⟨?_, by simp⟩, rfl, hsame hcreated⟩)
      simp [answer, hrecord, hcreated]
    · obtain rfl := hsame hcreated
      obtain ⟨hfind, hforce, hread⟩ := Workspace.recordToLink_eq_ok hrecord
      obtain ⟨hmem, hid⟩ := mem_shown_of_find? hs.toTracked hfind
      obtain ⟨rfl, rfl⟩ := Prod.mk.inj hid
      rcases filed_of_link hs.toTracked hrejects hmem hread hlink with ⟨_, _, rfl⟩ |
        ⟨created, rfl, rfl, hfiled⟩
      · exact hevent.elim
      · refine .inr (.inl ⟨record, force, created, ?_, hforce, hfiled⟩)
        simp [answer, hrecord, hcreated]

/-! ### Issues -/

section Filed

variable {record : CommentRecord} {created : CreatedIssue}

/-- The line of an issue gives the linked record, but for its number. -/
theorem Filed.gives (h : Filed s record created s') (hs : Settled s)
    (hrejects : ∀ name ∈ StateStore.ownNames, s.workspace.filter.accepts name = false)
    (hread : s.workspace.AsRead s.files record) :
    ∃ fresh, s.workspace.Gives s'.files fresh ∧ fresh.file = record.file ∧
      created.record = fresh.withNumber (some created.info.number) := by
  have hlists := hs.listed record h.mem
  obtain ⟨t, hmarker, hframe⟩ := h.files
  obtain ⟨fresh, hgives, hfile, hrow⟩ := hmarker.gives_linked hlists hread
  refine ⟨fresh, hgives.of_changesOnly hframe ?_, hfile, h.linked.trans hrow⟩
  rw [hfile]
  exact Workspace.placeOf_not_mem_ownPlaces hrejects hlists

/-- The file of an issue can still be read. -/
theorem Filed.exists_readText (h : Filed s record created s') (hs : Settled s)
    (hrejects : ∀ name ∈ StateStore.ownNames, s.workspace.filter.accepts name = false)
    (hread : s.workspace.AsRead s.files record) :
    ∃ content, s'.files.readText (Path.join s.workspace.root.toList record.file.toList) =
      .ok content := by
  obtain ⟨fresh, ⟨content, hcontent, -⟩, hfile, -⟩ := h.gives hs hrejects hread
  exact ⟨content, hfile ▸ hcontent⟩

/-- Every other line gives what it gave, unless its file has been used as the temporary file. -/
theorem Filed.gives_or_overwritten (h : Filed s record created s') (hs : Settled s)
    (hrejects : ∀ name ∈ StateStore.ownNames, s.workspace.filter.accepts name = false)
    (hgives : s.workspace.Gives s.files fresh) (hlists : s.workspace.filter.Lists fresh.file)
    (hid : fresh.identity ≠ record.identity) :
    s.workspace.Gives s'.files fresh ∨ created.marker ≠ .written .alreadyMarked ∧
      fresh.file = WriteBack.temporaryFile record.file := by
  obtain ⟨t, hmarker, hframe⟩ := h.files
  exact (hmarker.gives_or_overwritten (hs.listed record h.mem) hgives hlists hid).imp_left
    (·.of_changesOnly hframe (Workspace.placeOf_not_mem_ownPlaces hrejects hlists))

/-- The linked record is for the line of the issue. -/
theorem Filed.identity_eq (h : Filed s record created s') :
    created.record.identity = record.identity := by
  rw [h.linked, Workspace.identity_linkedRecord]

/-- The linked record is shown. -/
theorem Filed.mem_shown (h : Filed s record created s') : created.record ∈ s'.shown := by
  rw [h.shown]
  exact mem_replaced h.mem h.identity_eq.symm

/-- All other records remain shown. -/
theorem Filed.mem_shown_of_ne (h : Filed s record created s') (hr : r ∈ s.shown)
    (hid : r.identity ≠ record.identity) : r ∈ s'.shown := by
  rw [h.shown]
  refine List.mem_map.mpr ⟨r, hr, if_neg fun hat => hid ?_⟩
  exact (isAt_iff.mp hat).trans h.identity_eq

/-- Nothing else is shown. -/
theorem Filed.eq_or_mem_shown (h : Filed s record created s') (hr : r ∈ s'.shown) :
    r = created.record ∨ r ∈ s.shown ∧ r.identity ≠ record.identity := by
  rw [h.shown] at hr
  obtain ⟨old, hold, rfl⟩ := List.mem_map.mp hr
  split
  · exact .inl rfl
  · rename_i hnot
    refine .inr ⟨hold, fun hid => hnot (isAt_iff.mpr ?_)⟩
    exact hid.trans h.identity_eq.symm

/-- What has become of the files if the marker has been written. -/
theorem Filed.exists_inserts (h : Filed s record created s') (hs : Settled s) {text : String}
    (hwritten : created.marker = .written (.inserted text)) :
    ∃ names t, names ≠ [] ∧ AreNames names ∧ record.file = pathOf names ∧
      s.workspace.Inserts record created.info.number names text s.files t ∧
      t.ChangesOnly s.workspace.store.ownPlaces s'.files := by
  obtain ⟨t, hmarker, hframe⟩ := h.files
  obtain ⟨names, hne, hnames, hfile, -⟩ := hs.listed record h.mem
  rcases hmarker.cases hne hnames hfile with hspares | ⟨text', hwritten', hinserts⟩
  · exact absurd hwritten (hspares.not_inserted text)
  · obtain rfl : text = text' := by simpa [hwritten] using hwritten'
    exact ⟨names, t, hne, hnames, hfile, hinserts, hframe⟩

/-- A marker that has been written costs the file with the name of the temporary file. -/
theorem Filed.gone_temporaryFile (h : Filed s record created s') (hs : Settled s)
    (hrejects : ∀ name ∈ StateStore.ownNames, s.workspace.filter.accepts name = false)
    {text : String} (hwritten : created.marker = .written (.inserted text)) :
    s.workspace.Gone s'.files (WriteBack.temporaryFile record.file) := by
  obtain ⟨names, t, hne, hnames, hfile, hinserts, hframe⟩ := h.exists_inserts hs hwritten
  obtain ⟨others, -, -, hothers, haccepts⟩ := hs.listed record h.mem
  rw [hfile, WriteBack.temporaryFile_pathOf hne hnames, Workspace.Gone,
    Workspace.placeOf_pathOf _ (WriteBack.temporaryNames_ne_nil hne)
      (WriteBack.areNames_temporaryNames hnames)]
  refine (hframe.get?_eq _ fun hmem => ?_).trans hinserts.temporary
  obtain ⟨name, hname, heq⟩ := List.mem_map.mp hmem
  refine Workspace.place_not_mem hname (hrejects name hname) (hfile ▸ haccepts) ?_
  rw [heq]
  exact List.mem_cons_self

/-- Files other than that of the issue and its temporary file read as they did. -/
theorem Filed.readText_of_ne (h : Filed s record created s') (hs : Settled s)
    (hrejects : ∀ name ∈ StateStore.ownNames, s.workspace.filter.accepts name = false)
    {file text : String} (hlists : s.workspace.filter.Lists file) (hne : file ≠ record.file)
    (htemporary : file ≠ WriteBack.temporaryFile record.file)
    (hread : s.files.readText (Path.join s.workspace.root.toList file.toList) = .ok text) :
    s'.files.readText (Path.join s.workspace.root.toList file.toList) = .ok text := by
  obtain ⟨t, hmarker, hframe⟩ := h.files
  obtain ⟨places, hframe', hplace⟩ :=
    hmarker.exists_changesOnly_of_ne (hs.listed record h.mem) hlists hne htemporary
  exact hframe.readText (Workspace.placeOf_not_mem_ownPlaces hrejects hlists)
    (hframe'.readText hplace hread)

end Filed

/-! ### What lines give after a step -/

/-- A line changes only by an issue that is filed for it, unless its file is used as the temporary
file of another one. -/
theorem gives_of_step (hs : Settled s)
    (hrejects : ∀ name ∈ StateStore.ownNames, s.workspace.filter.accepts name = false)
    (h : Step (.undisturbed s.workspace.root settings) s event s') (hevent : event.Undisturbed)
    (hgives : s.workspace.Gives s.files fresh) (hlists : s.workspace.filter.Lists fresh.file)
    (hspared : ¬ event.Overwrites fresh.file)
    (hother : ∀ force answer created,
      event ≠ .created fresh.file fresh.line force answer (.ok created)) :
    s.workspace.Gives s'.files fresh := by
  rcases step_cases hs (hrejects _ (by decide)) h hevent with ⟨_, _, -, rfl, hscan⟩ |
    ⟨record, force, created, rfl, -, hfiled⟩ | ⟨-, -, hsame⟩
  · exact hgives.of_changesOnly hscan.frame (Workspace.placeOf_not_mem_ownPlaces hrejects hlists)
  · have hid : fresh.identity ≠ record.identity := by
      intro heq
      obtain ⟨hfile, hline⟩ := Prod.mk.inj heq
      exact hother force _ created (by rw [hfile, hline])
    refine (hfiled.gives_or_overwritten hs hrejects hgives hlists hid).resolve_right ?_
    rintro ⟨hwritten, hfile⟩
    exact hspared ⟨_, _, _, _, created, rfl, hwritten, hfile⟩
  · rw [hsame]
    exact hgives

/-- Whether the records of a file that the tree shows are what their lines give. -/
def RowsAsRead (file : String) (s : Session) : Prop :=
  ∀ r ∈ s.shown, r.file = file → s.workspace.AsRead s.files r

/-- A rescan shows what the lines give. -/
theorem Rescans.asRead {respectIgnore : Bool} {report : ScanReport}
    (h : Rescans s respectIgnore report s') (hs' : Tracked s')
    (hsetup : s.workspace.SameSetup s'.workspace)
    (hrejects : ∀ name ∈ StateStore.ownNames, s.workspace.filter.accepts name = false)
    (hr : r ∈ s'.shown) : s.workspace.AsRead s'.files r := by
  have hlists := hs'.listed r hr
  rw [hsetup.filter] at hlists
  obtain ⟨files, -, hmem⟩ := h.listed
  obtain ⟨fresh, -, hgives, rfl⟩ := (hmem r).mp (h.shown ▸ hr)
  exact (hgives.of_changesOnly h.frame
    (Workspace.placeOf_not_mem_ownPlaces hrejects hlists)).asRead _

/-- After a scan that has read all files, the tree shows what the lines give. -/
theorem settled_of_scan {source : FileSource} {report : ScanReport} (hnamed : s.files.WellNamed)
    (hrejects : ∀ name ∈ StateStore.ownNames, s.workspace.filter.accepts name = false)
    (h : Step (.undisturbed s.workspace.root settings) s (.scanned source (.ok report)) s')
    (hread : report.failedFiles = []) :
    Settled s' ∧ ∀ r ∈ s'.shown, s'.workspace.AsRead s'.files r := by
  have hsetup := h.sameSetup
  cases h with
  | scan hsource hscan =>
    obtain ⟨_, -, rfl⟩ := hsource
    obtain ⟨htracked, hsame⟩ := tracked_of_scan hnamed hscan.scan_eq
    refine ⟨⟨htracked, hsame⟩, fun r hr => ?_⟩
    exact hsetup.asRead_iff.mpr
      ((rescans_of_scan hscan.scan_eq hread).asRead htracked hsetup hrejects hr)

/-- The records of a file remain what their lines give, unless it is used as the temporary file of
another one. -/
theorem rowsAsRead_of_step {file : String} (hs : Settled s)
    (hrejects : ∀ name ∈ StateStore.ownNames, s.workspace.filter.accepts name = false)
    (hrows : RowsAsRead file s) (h : Step (.undisturbed s.workspace.root settings) s event s')
    (hevent : event.Undisturbed) (hspared : ¬ event.Overwrites file) : RowsAsRead file s' := by
  have hsetup := h.sameSetup
  have hs' := settled_step hs (hrejects _ (by decide)) h hevent
  intro r hr hfile
  rw [hsetup.asRead_iff]
  rcases step_cases hs (hrejects _ (by decide)) h hevent with ⟨_, _, -, -, hscan⟩ |
    ⟨record, force, created, heq, -, hfiled⟩ | ⟨-, hshown, hsame⟩
  · exact hscan.asRead hs'.toTracked hsetup hrejects hr
  · rcases hfiled.eq_or_mem_shown hr with rfl | ⟨hold, hother⟩
    · have hrecord := (Prod.mk.inj hfiled.identity_eq).1.symm.trans hfile
      obtain ⟨fresh, hgives, -, hlinked⟩ :=
        hfiled.gives hs hrejects (hrows record hfiled.mem hrecord)
      exact hlinked ▸ hgives.asRead _
    · obtain ⟨fresh, hgives, hrow⟩ := hrows r hold hfile
      have hid : fresh.identity = r.identity := by
        rw [hrow, identity_withNumber]
      have hfresh := (Prod.mk.inj hid).1
      have hkept := (hfiled.gives_or_overwritten hs hrejects hgives
        (hfresh ▸ hs.listed r hold) (hid ▸ hother)).resolve_right fun ⟨hwritten, htemporary⟩ =>
          hspared ⟨_, _, _, _, created, heq, hwritten, by rw [← hfile, ← hfresh, htemporary]⟩
      exact hrow ▸ hkept.asRead _
  · rw [hsame]
    exact hrows r (hshown ▸ hr) hfile

/-- Tree and saved records remain in step in a run, and the records of a file what their lines give.
-/
theorem rowsAsRead_of_run {root file : String} {events : List Event} (hs : Settled s)
    (hrows : RowsAsRead file s) (hroot : s.workspace.root = root)
    (hrejects : ∀ name ∈ StateStore.ownNames, s.workspace.filter.accepts name = false)
    (hrun : Run (.undisturbed root settings) s events s')
    (hevents : ∀ e ∈ events, e.Undisturbed ∧ ¬ e.Overwrites file) :
    Settled s' ∧ RowsAsRead file s' := by
  induction hrun with
  | nil => exact ⟨hs, hrows⟩
  | snoc hrun hstep ih =>
    obtain ⟨hsettled, hrows'⟩ := ih fun e he => hevents e (List.mem_append_left _ he)
    obtain ⟨hevent, hspared⟩ := hevents _ (List.mem_append_right _ List.mem_cons_self)
    have hsetup := hrun.sameSetup
    rw [← hroot, ← hsetup.root] at hstep
    rw [← hsetup.filter] at hrejects
    exact ⟨settled_step hsettled (hrejects _ (by decide)) hstep hevent,
      rowsAsRead_of_step hsettled hrejects hrows' hstep hevent hspared⟩

/-! ### Rescans of shown records -/

/-- A file that listings go to is listed if it has a text. -/
theorem Visits.mem_files {respectIgnore : Bool} {file content : String}
    (h : s.Visits respectIgnore file)
    (hread : s.files.readText (Path.join s.workspace.root.toList file.toList) = .ok content)
    {files : List String}
    (hlist : s.files.listFiles s.workspace.root respectIgnore s.workspace.filter = .ok files) :
    file ∈ files := by
  obtain ⟨names, hne, hnames, rfl, haccepts, hvisits⟩ := h
  have hnode := (FileTree.read_eq_ok_iff.mp (FileTree.readText_eq_ok_iff.mp hread)).2
  rw [Path.location_join _ hne hnames] at hnode
  exact (FileTree.mem_listFiles hlist).mpr ⟨names, _, hne, hnode, hvisits, rfl, haccepts⟩

/-- What a rescan reports for a record that is shown, if its file is listed and its line still gives
it: the number of the marker on its line, or else the number that it has. -/
theorem Rescans.mem_of_asRead {respectIgnore : Bool} {report : ScanReport}
    (h : Rescans s respectIgnore report s') (hs : Settled s) (hr : r ∈ s.shown)
    (hread : s.workspace.AsRead s.files r) {files : List String}
    (hlist : s.files.listFiles s.workspace.root respectIgnore s.workspace.filter = .ok files)
    (hfile : r.file ∈ files) : r.rescanned ∈ report.records := by
  obtain ⟨files', hlist', hmem⟩ := h.listed
  obtain rfl := Except.ok.inj (hlist'.symm.trans hlist)
  obtain ⟨fresh, hgives, hrow⟩ := hread
  have hsame : fresh.file = r.file ∧ fresh.line = r.line ∧ fresh.text = r.text := by
    rw [hrow]
    exact ⟨rfl, rfl, rfl⟩
  refine (hmem _).mpr ⟨fresh, hsame.1 ▸ hfile, hgives, ?_⟩
  have hremembered := rememberedIssue_of_mem hs.distinct_saved (hs.same ▸ hr)
  have hagain (number : Option UInt64) : r.withNumber number = fresh.withNumber number :=
    congrArg (·.withNumber number) hrow
  rw [hsame.1, hsame.2.1, hremembered, hgives.issueNumber, hsame.2.2, rescanned, hagain, hasMarker]
  cases Marker.find? r.text.toList <;> rfl

end Session

end TrackedComments

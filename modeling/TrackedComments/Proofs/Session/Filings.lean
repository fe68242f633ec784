import TrackedComments.Proofs.Session.FirstSteps
import TrackedComments.Proofs.Text.Bytes

/-!
# No comment is filed twice

A comment that an issue has been filed for is linked in the tree and among the saved records,
whether the marker could be written or not. Rescans find the link again, on the line or in the saved
list, because the list of files stays as it is: no write-back touches an ignore file. It is another
matter if the file has the name of the temporary file of another one, to which a marker is written:
then its lines are lost, and so are the links of its comments.

## Main results

* `Session.accounted_step`, `Session.held_step`: what every step keeps.
* `Session.held_of_filed`: what is filed was not filed before, and is from then on.
* `Session.filed_once_of_run`: no comment is filed twice.
-/

namespace TrackedComments

open CommentRecord

/-! ### Ignore files -/

/-- No ignore rules are read from a temporary file. -/
theorem not_isIgnoreFile_temporaryNames (root : Location) {names : Location} (hne : names ≠ []) :
    ¬ IsIgnoreFile (root ++ WriteBack.temporaryNames names) := by
  have hends : ∀ name ∈ [".ignore", ".gitignore", "exclude"],
      ¬ ['.', 'c', '2', 'i', '.', 't', 'm', 'p'] <:+ name.toList := by
    decide
  rcases List.eq_nil_or_concat names with rfl | ⟨init, last, hnames⟩
  · exact absurd rfl hne
  · rw [hnames, List.concat_eq_append, WriteBack.temporaryNames_concat, ← List.append_assoc]
    intro hignore
    refine hends _ (last_of_isIgnoreFile hignore) ?_
    rw [String.toList_ofList]
    exact List.suffix_append _ _

/-- Whether a filter passes no file that ignore rules are read from. Nothing below an entry named
`.git` is ever listed. -/
def FileFilter.RejectsIgnoreFiles (filter : FileFilter) (root : Location) : Prop :=
  ∀ names, AreNames names → ".git" ∉ names → filter.accepts (pathOf names) →
    ¬ IsIgnoreFile (root ++ names)

/-- A filter for an ending passes no ignore file if none of their names goes with it. -/
theorem FileFilter.rejectsIgnoreFiles_endingIn (suffix : String) (root : Location)
    (h : ∀ name ∈ [".ignore", ".gitignore", "exclude"],
      ¬ utf8Bytes suffix.toList <:+ utf8Bytes name.toList ∧
        ¬ utf8Bytes name.toList <:+ utf8Bytes suffix.toList) :
    (FileFilter.endingIn suffix).RejectsIgnoreFiles root := by
  intro names _ _ haccepts hignore
  rw [accepts_endingIn] at haccepts
  rcases List.eq_nil_or_concat names with rfl | ⟨init, last, rfl⟩
  · have hnil : utf8Bytes suffix.toList = [] := List.suffix_nil.mp haccepts
    exact (h ".ignore" (by simp)).1 (hnil ▸ List.nil_suffix)
  · rw [List.concat_eq_append] at haccepts hignore
    rw [← List.append_assoc] at hignore
    obtain ⟨hsuffix, hname⟩ := h last (last_of_isIgnoreFile hignore)
    have hlast := utf8Bytes_suffix (toList_suffix_pathOf init last)
    exact (List.suffix_or_suffix_of_suffix haccepts hlast).elim hsuffix hname

namespace Session

/-- Whether an issue is not forced. -/
def Event.Unforced : Event → Prop
  | .created _ _ force _ _ => force = false
  | _ => True

/-- Whether a tracker has filed an issue for a line. -/
def Event.files (file : String) (line : UInt32) : Event → Bool
  | .created file' line' _ (some (.ok _)) _ => file' == file && line' == line
  | _ => false

variable {s s' : Session} {event : Event} {respectIgnore : Bool} {settings : Bool → Prop}
  {file : String} {line : UInt32}

/-- What holds of a session that nobody disturbs, as long as a file is not used as the temporary
file of another one: its records are what their lines give, and listings go to the files of all
records. -/
structure Accounted (file : String) (respectIgnore : Bool) (s : Session) : Prop
    extends Settled s where
  rows : RowsAsRead file s
  visited : ∀ r ∈ s.shown, s.Visits respectIgnore r.file

/-- Whether a comment is shown as linked. -/
structure Held (s : Session) (file : String) (line : UInt32) : Prop where
  linked : ∀ r ∈ s.shown, r.isAt file line → r.issueNumber.isSome
  present : ∃ r ∈ s.shown, r.isAt file line

/-! ### Ignore files and lists of files -/

/-- No step touches an ignore file. -/
theorem ignoreFile_of_step (hs : Settled s)
    (hvisited : ∀ r ∈ s.shown, s.Visits respectIgnore r.file)
    (hignore : s.workspace.filter.RejectsIgnoreFiles (Path.location s.workspace.root.toList))
    (hrejects : ∀ name ∈ StateStore.ownNames, s.workspace.filter.accepts name = false)
    (h : Step (.undisturbed s.workspace.root settings) s event s') (hevent : event.Undisturbed)
    {loc : Location} (hloc : IsIgnoreFile loc) : s'.files.get? loc = s.files.get? loc := by
  have hplace : loc ∉ s.workspace.store.ownPlaces := fun hmem =>
    not_isIgnoreFile_of_mem_ownPlaces hmem hloc
  rcases step_cases hs (hrejects _ (by decide)) h hevent with ⟨_, _, -, -, hscan⟩ |
    ⟨record, force, created, -, -, hfiled⟩ | ⟨-, -, hsame⟩
  · exact hscan.frame.get?_eq loc hplace
  · obtain ⟨t, hmarker, hframe⟩ := hfiled.files
    obtain ⟨names, hne, hnames, hfile, haccepts, hvisits⟩ := hvisited record hfiled.mem
    refine (hframe.get?_eq loc hplace).trans
      ((hmarker.changesOnly hne hnames hfile).1.get?_eq loc ?_)
    simp only [List.mem_cons, List.not_mem_nil, or_false, not_or]
    refine ⟨?_, ?_⟩
    · rintro rfl
      exact not_isIgnoreFile_temporaryNames _ hne hloc
    · rintro rfl
      exact hignore _ hnames hvisits.not_mem_git (hfile ▸ haccepts) hloc
  · rw [hsame]

/-- Listings go to the same files as long as no ignore file is touched. -/
theorem Visits.congr {file : String} (h : s.Visits respectIgnore file)
    (hsetup : s.workspace.SameSetup s'.workspace)
    (hignore : ∀ loc, IsIgnoreFile loc → s'.files.get? loc = s.files.get? loc) :
    s'.Visits respectIgnore file := by
  obtain ⟨names, hne, hnames, hfile, haccepts, hvisits⟩ := h
  refine ⟨names, hne, hnames, hfile, hsetup.filter ▸ haccepts, ?_⟩
  rw [hsetup.root]
  exact (FileTree.visits_congr hignore).mpr hvisits

/-- A rescan shows records of files that listings go to. -/
theorem Rescans.visits {report : ScanReport} (h : Rescans s respectIgnore report s')
    (hnamed : s.files.WellNamed) {r : CommentRecord} (hr : r ∈ s'.shown) :
    s.Visits respectIgnore r.file := by
  obtain ⟨files, hlist, hmem⟩ := h.listed
  obtain ⟨fresh, hfile, -, rfl⟩ := (hmem r).mp (h.shown ▸ hr)
  obtain ⟨names, content, hne, hnode, hvisits, hname, haccepts⟩ :=
    (FileTree.mem_listFiles hlist).mp hfile
  exact ⟨names, hne, (areNames_append.mp (hnamed.of_get? hnode)).2, hname, haccepts, hvisits⟩

/-! ### Steps -/

/-- A rescan finds a link again. -/
theorem held_of_rescans (hs : Accounted file respectIgnore s) {report : ScanReport}
    (hscan : Rescans s respectIgnore report s') (hs' : Settled s') (hheld : Held s file line) :
    Held s' file line := by
  obtain ⟨files, hlist, hmem⟩ := hscan.listed
  obtain ⟨old, hold, hat⟩ := hheld.present
  have hread := hs.rows old hold (isAt_iff_file_line.mp hat).1
  obtain ⟨content, htext⟩ := hread.exists_readText
  have hlisted := (hs.visited old hold).mem_files htext hlist
  have hfound : old.rescanned ∈ s'.shown :=
    hscan.shown ▸ hscan.mem_of_asRead hs.toSettled hold hread hlist hlisted
  have hat' : old.rescanned.isAt file line := hat
  refine ⟨fun r hr hrow => ?_, old.rescanned, hfound, hat'⟩
  rw [eq_of_identity_eq hs'.distinct hr hfound
    ((isAt_iff.mp hrow).trans (isAt_iff.mp hat').symm), rescanned, withNumber, Option.isSome_or,
    hheld.linked old hold hat, Bool.or_true]

section Steps

variable (hs : Accounted file respectIgnore s)
  (hignore : s.workspace.filter.RejectsIgnoreFiles (Path.location s.workspace.root.toList))
  (hrejects : ∀ name ∈ StateStore.ownNames, s.workspace.filter.accepts name = false)
  (h : Step (.undisturbed s.workspace.root (· = respectIgnore)) s event s')
  (hevent : event.Undisturbed) (hspared : ¬ event.Overwrites file)

include hs hignore hrejects h hevent hspared

/-- Every step keeps what is accounted for. -/
theorem accounted_step : Accounted file respectIgnore s' := by
  have hsetup := h.sameSetup
  refine ⟨settled_step hs.toSettled (hrejects _ (by decide)) h hevent,
    rowsAsRead_of_step hs.toSettled hrejects hs.rows h hevent hspared, fun r hr => ?_⟩
  refine Visits.congr ?_ hsetup fun loc =>
    ignoreFile_of_step hs.toSettled hs.visited hignore hrejects h hevent
  rcases step_cases hs.toSettled (hrejects _ (by decide)) h hevent with ⟨_, _, rfl, -, hscan⟩ |
    ⟨record, force, created, -, -, hfiled⟩ | ⟨-, hshown, -⟩
  · exact hscan.visits hs.named hr
  · rcases hfiled.eq_or_mem_shown hr with rfl | ⟨hold, -⟩
    · rw [(Prod.mk.inj hfiled.identity_eq).1]
      exact hs.visited record hfiled.mem
    · exact hs.visited r hold
  · exact hs.visited r (hshown ▸ hr)

/-- What has been filed stays filed. -/
theorem held_step (hheld : Held s file line) : Held s' file line := by
  have hs' := accounted_step hs hignore hrejects h hevent hspared
  rcases step_cases hs.toSettled (hrejects _ (by decide)) h hevent with ⟨_, report, rfl, -, hscan⟩ |
    ⟨record, force, created, -, -, hfiled⟩ | ⟨-, hshown, -⟩
  · exact held_of_rescans hs hscan hs'.toSettled hheld
  · refine ⟨fun r hr hat => ?_, ?_⟩
    · rcases hfiled.eq_or_mem_shown hr with rfl | ⟨hold, -⟩
      · rw [hfiled.linked, Workspace.issueNumber_linkedRecord]
        rfl
      · exact hheld.linked r hold hat
    · obtain ⟨old, hold, hat⟩ := hheld.present
      by_cases hid : old.identity = record.identity
      · exact ⟨_, hfiled.mem_shown, isAt_iff.mpr
          ((hfiled.identity_eq.trans hid.symm).trans (isAt_iff.mp hat))⟩
      · exact ⟨old, hfiled.mem_shown_of_ne hold hid, hat⟩
  · exact ⟨fun r hr => hheld.linked r (hshown ▸ hr), hshown ▸ hheld.present⟩

/-- What is filed without force was not filed before, and is from then on. -/
theorem held_of_filed (hunforced : event.Unforced) (hfiles : event.files file line) :
    ¬ Held s file line ∧ Held s' file line := by
  have hs' := accounted_step hs hignore hrejects h hevent hspared
  rcases step_cases hs.toSettled (hrejects _ (by decide)) h hevent with ⟨_, report, -, rfl, -⟩ |
    ⟨record, force, created, rfl, hforce, hfiled⟩ | ⟨hquiet, -, -⟩
  · simp [Event.files] at hfiles
  · obtain ⟨rfl, rfl⟩ : record.file = file ∧ record.line = line := by
      simpa [Event.files] using hfiles
    have hat : created.record.isAt record.file record.line := isAt_iff.mpr hfiled.identity_eq
    refine ⟨fun hheld => ?_, fun r hr hat' => ?_, _, hfiled.mem_shown, hat⟩
    · have hlinked := hheld.linked record hfiled.mem record.isAt_self
      rw [hforce hunforced] at hlinked
      simp at hlinked
    · have hsame := (isAt_iff.mp hat').trans (isAt_iff.mp hat).symm
      rw [eq_of_identity_eq hs'.distinct hr hfiled.mem_shown hsame, hfiled.linked,
        Workspace.issueNumber_linkedRecord]
      rfl
  · cases event with
    | created file' line' force answer result =>
      cases answer with
      | none => simp [Event.files] at hfiles
      | some answer =>
        cases answer with
        | error e => simp [Event.files] at hfiles
        | ok info => exact absurd rfl (hquiet.1 info)
    | scanned | loaded | edited => simp [Event.files] at hfiles

end Steps

/-! ### Runs -/

/-- After a scan that has read all files, everything that is shown is accounted for. -/
theorem accounted_of_scan {source : FileSource} {report : ScanReport}
    (hnamed : s.files.WellNamed)
    (hrejects : ∀ name ∈ StateStore.ownNames, s.workspace.filter.accepts name = false)
    (h : Step (.undisturbed s.workspace.root (· = respectIgnore)) s
      (.scanned source (.ok report)) s')
    (hread : report.failedFiles = []) : Accounted file respectIgnore s' := by
  have hsetup := h.sameSetup
  obtain ⟨hsettled, hrows⟩ := settled_of_scan hnamed hrejects h hread
  cases h with
  | scan hsource hscan =>
    obtain ⟨_, rfl, rfl⟩ := hsource
    have hrescans := rescans_of_scan hscan.scan_eq hread
    refine ⟨hsettled, fun r hr _ => hrows r hr, fun r hr => ?_⟩
    refine Visits.congr (hrescans.visits hnamed hr) hsetup fun loc hloc => ?_
    exact hrescans.frame.get?_eq loc fun hmem => not_isIgnoreFile_of_mem_ownPlaces hmem hloc

/-- What holds after a run of a session that is accounted for: no comment of the file has been filed
twice, and what has been filed is linked. -/
theorem held_of_run {root : String} {events : List Event}
    (hs : Accounted file respectIgnore s) (hroot : s.workspace.root = root)
    (hignore : s.workspace.filter.RejectsIgnoreFiles (Path.location root.toList))
    (hrejects : ∀ name ∈ StateStore.ownNames, s.workspace.filter.accepts name = false)
    (hrun : Run (.undisturbed root (· = respectIgnore)) s events s')
    (hevents : ∀ e ∈ events, e.Undisturbed ∧ e.Unforced)
    (hspared : ∀ e ∈ events, ¬ e.Overwrites file) (line : UInt32) :
    Accounted file respectIgnore s' ∧ events.countP (·.files file line) ≤ 1 ∧
      ((∃ e ∈ events, e.files file line) → Held s' file line) := by
  induction hrun with
  | nil => exact ⟨hs, by simp⟩
  | snoc hrun hstep ih =>
    rename_i s₁ s₂ events event
    have hlast : event ∈ events ++ [event] := List.mem_append_right _ List.mem_cons_self
    obtain ⟨haccounted, hcount, hfiled⟩ := ih (fun e he => hevents e (List.mem_append_left _ he))
      fun e he => hspared e (List.mem_append_left _ he)
    obtain ⟨hevent, hunforced⟩ := hevents event hlast
    have hspared := hspared event hlast
    have hsetup := hrun.sameSetup
    rw [← hroot, ← hsetup.root] at hstep hignore
    rw [← hsetup.filter] at hignore hrejects
    refine ⟨accounted_step haccounted hignore hrejects hstep hevent hspared, ?_⟩
    have hcases : events.countP (·.files file line) = 0 ∨ ∃ e ∈ events, e.files file line := by
      rw [List.countP_eq_zero]
      by_cases hany : ∃ e ∈ events, e.files file line
      · exact .inr hany
      · exact .inl fun e he hfiles => hany ⟨e, he, hfiles⟩
    rw [List.countP_append, List.countP_singleton]
    by_cases hfiles : event.files file line
    · obtain ⟨hnot, hnow⟩ :=
        held_of_filed haccounted hignore hrejects hstep hevent hspared hunforced hfiles
      have hzero := hcases.resolve_right fun hany => hnot (hfiled hany)
      exact ⟨by rw [hzero, if_pos hfiles], fun _ => hnow⟩
    · refine ⟨by rw [if_neg hfiles]; exact hcount, ?_⟩
      rintro ⟨e, he, hfiles'⟩
      rcases List.mem_append.mp he with he | he
      · exact held_step haccounted hignore hrejects hstep hevent hspared (hfiled ⟨e, he, hfiles'⟩)
      · obtain rfl := List.mem_singleton.mp he
        exact absurd hfiles' hfiles

/-- What has been filed is refused as linked. -/
theorem refused_of_held (hs : Tracked s) (hheld : Held s file line) (missing : List String) :
    ∃ number, s.workspace.recordToLink s.files missing file line false =
      .error (.alreadyLinked file line number) := by
  cases hfind : s.workspace.find? s.files file line with
  | none =>
    obtain ⟨r, hr, hat⟩ := hheld.present
    rw [Workspace.find?, Option.or_eq_none_iff] at hfind
    exact absurd hat (List.find?_eq_none.mp hfind.1 r hr)
  | some r =>
    obtain ⟨hr, hid⟩ := mem_shown_of_find? hs hfind
    obtain ⟨number, hnumber⟩ := Option.isSome_iff_exists.mp (hheld.linked r hr (isAt_iff.mpr hid))
    exact ⟨number, Workspace.recordToLink_of_linked hfind hnumber⟩

/-- No comment is filed twice. In a session that has begun with a scan, in which nobody else changes
files, all files can be read and all saves succeed, a tracker files an issue for a comment at most
once, and from then on the comment is refused as linked without asking a tracker. Write-backs may
fail in every way, but the file of the comment must not be used as the temporary file of another
one. -/
theorem filed_once_of_run {s₀ s₁ s₂ : Session} {source : FileSource} {report : ScanReport}
    {events : List Event} (hnamed : s₀.files.WellNamed)
    (hrejects : ∀ name ∈ StateStore.ownNames, s₀.workspace.filter.accepts name = false)
    (hignore : s₀.workspace.filter.RejectsIgnoreFiles (Path.location s₀.workspace.root.toList))
    (hscan : Step (.undisturbed s₀.workspace.root (· = respectIgnore)) s₀
      (.scanned source (.ok report)) s₁)
    (hrun : Run (.undisturbed s₀.workspace.root (· = respectIgnore)) s₁ events s₂)
    (hread : report.failedFiles = []) (hevents : ∀ e ∈ events, e.Undisturbed ∧ e.Unforced)
    {file : String} (hspared : ∀ e ∈ events, ¬ e.Overwrites file) (line : UInt32) :
    events.countP (·.files file line) ≤ 1 ∧
      ((∃ e ∈ events, e.files file line) → ∀ {τ : Type} [IssueTracker τ] (tracker : τ),
        s₂.answer tracker file line false = none ∧
          ∃ number, s₂.workspace.createIssue s₂.files tracker file line false =
            (.error (.alreadyLinked file line number), s₂.workspace, tracker, s₂.files)) := by
  have hsetup := hscan.sameSetup
  rw [← hsetup.filter] at hignore
  obtain ⟨haccounted, hcount, hheld⟩ := held_of_run (accounted_of_scan hnamed hrejects hscan hread)
    hsetup.root hignore (hsetup.filter ▸ hrejects) hrun hevents hspared line
  refine ⟨hcount, fun hfiles {τ} _ tracker => ?_⟩
  obtain ⟨number, hrefused⟩ := refused_of_held haccounted.toTracked (hheld hfiles)
    (IssueTracker.missingSettings tracker)
  exact ⟨by rw [answer, hrefused], number, Workspace.createIssue_of_error hrefused⟩

section Example

/-- A comment that has been filed is refused as linked. -/
theorem refused_after_filing : ∃ report s₁ created s₂,
    Step (.undisturbed "." (· = false)) (sample ".ts" (.single "a.ts" "x"))
        (.scanned (.ofTree (.single "a.ts" "x") "." false) (.ok report)) s₁ ∧
      Step (.undisturbed "." (· = false)) s₁
        (.created "a.ts" 1 false (some (.ok sampleIssue)) (.ok created)) s₂ ∧
      ∀ tracker : ScriptedTracker, ∃ number,
        s₂.workspace.createIssue s₂.files tracker "a.ts" 1 false =
          (.error (.alreadyLinked "a.ts" 1 number), s₂.workspace, tracker, s₂.files) := by
  have hfiles := FileTree.holdsTexts_single FileTree.isPlain_aTs FileTree.isText_x
  have hgives := ScanPattern.firstLine_mem_scanContent_x "a.ts"
  obtain ⟨report, s₁, created, s₂, hscan, hread, hcreate, -⟩ :=
    exists_filed_single FileTree.isText_x hgives false (fun _ => by decide)
      fun _ _ => isText_of_insertInto_x
  have hnamed : (sample ".ts" (.single "a.ts" "x")).files.WellNamed := hfiles.wellNamed
  obtain ⟨-, hrefused⟩ := filed_once_of_run hnamed (rejects_ts _)
    (FileFilter.rejectsIgnoreFiles_endingIn ".ts" _ (by decide)) hscan (.snoc (.nil s₁) hcreate)
    hread (by simp [Event.Undisturbed, Event.Unforced])
    (by simpa using Event.not_overwrites_aTs) 1
  exact ⟨report, s₁, created, s₂, hscan, hcreate, fun tracker =>
    (hrefused (by simp [Event.files]) tracker).2⟩

/-- Two files, one of which has the name of the temporary file of the other one. -/
def clashing : FileTree :=
  (FileTree.single "a.c2i.tmp" "x").set [".a.c2i.tmp.c2i.tmp"] (.file "x".toUTF8)

/-- The names of both files are plain. -/
theorem isPlain_clashing : ∀ name ∈ ["a.c2i.tmp", ".a.c2i.tmp.c2i.tmp"], FileTree.IsPlain name := by
  intro name hname
  simp only [List.mem_cons, List.not_mem_nil, or_false] at hname
  rcases hname with rfl | rfl
  · exact ⟨by decide, by decide, by decide⟩
  · exact ⟨by decide, by decide, by decide⟩

/-- There is nothing but the two text files. -/
theorem holdsTexts_clashing : clashing.HoldsTexts :=
  (FileTree.holdsTexts_single (isPlain_clashing _ (by simp)) FileTree.isText_x).set
    (isPlain_clashing _ (by simp)) FileTree.isText_x

/-- Both files hold the same line. -/
theorem get?_clashing : ∀ name ∈ ["a.c2i.tmp", ".a.c2i.tmp.c2i.tmp"],
    clashing.get? [name] = some (.file "x".toUTF8) := by
  intro name hname
  rw [clashing, FileTree.get?_set (by simp), FileTree.get?_single _ _ _ (by simp)]
  simp only [List.mem_cons, List.not_mem_nil, or_false] at hname
  rcases hname with rfl | rfl <;> simp

/-- The filter rejects the files of the store. -/
theorem rejects_clashing : ∀ name ∈ StateStore.ownNames,
    (FileFilter.endingIn ".c2i.tmp").accepts name = false := by
  decide

/-- An issue for a file of one line, whatever has been filed before. -/
theorem exists_filed_x {suffix : String} {files : FileTree} {s : Session}
    (hsetup : (sample suffix files).workspace.SameSetup s.workspace) (hs : Settled s)
    (hready : s.workspace.store.Ready s.files) (hreadable : s.Readable)
    (hrejects : ∀ name ∈ StateStore.ownNames, s.workspace.filter.accepts name = false)
    {name : String} (hmem : firstLine name "x" ∈ s.shown)
    (htext : s.files.readText (Path.join ".".toList name.toList) = .ok "x") :
    ∃ created s', Step (.undisturbed "." (· = false)) s
        (.created name 1 false (some (.ok sampleIssue)) (.ok created)) s' ∧
      created.info = sampleIssue ∧ FiledInFull s (firstLine name "x") created s' ∧ Settled s' ∧
      s'.workspace.store.Ready s'.files ∧ s'.Readable := by
  have hroot : s.workspace.root = "." := hsetup.root
  rw [← hroot] at htext
  have hread : s.workspace.AsRead s.files (firstLine name "x") := by
    refine ⟨firstLine name "x", ⟨"x", htext, ?_⟩, rfl⟩
    rw [hsetup.pattern]
    exact ScanPattern.firstLine_mem_scanContent_x name
  obtain ⟨created, s', hcreate, hinfo, hfiled, hready'⟩ := exists_filing (· = false) hs hready
    (hrejects _ (by decide)) hmem hread false (fun _ => rfl) sampleIssue
  have hreadable' := hfiled.readable hs hcreate.sameSetup hrejects hreadable
    fun content updated text hcontent hinto => by
      obtain rfl := Except.ok.inj (hcontent.symm.trans htext)
      exact isText_of_insertInto_x (hinfo ▸ hinto)
  have hs' := settled_step hs (hrejects _ (by decide)) hcreate trivial
  rw [hroot] at hcreate
  exact ⟨created, s', hcreate, hinfo, hfiled, hs', hready', hreadable'⟩

/-- The marker for it takes the file whose name is that of its temporary file. -/
theorem FiledInFull.gone_temporaryFile_x {suffix : String} {files : FileTree} {s s' : Session}
    (hsetup : (sample suffix files).workspace.SameSetup s.workspace) (hs : Settled s)
    (hrejects : ∀ name ∈ StateStore.ownNames, s.workspace.filter.accepts name = false)
    {name : String} {created : CreatedIssue}
    (hfiled : FiledInFull s (firstLine name "x") created s')
    (hinfo : created.info = sampleIssue) (hname : FileTree.IsPlain name)
    (htemporary : FileTree.IsPlain (WriteBack.temporaryFile name))
    (htext : s.files.readText (Path.join ".".toList name.toList) = .ok "x")
    (hfree : s.files.get? [WriteBack.temporaryFile name] ≠ some .directory) :
    s.workspace.Gone s'.files (WriteBack.temporaryFile name) := by
  have hroot : s.workspace.root = "." := hsetup.root
  have hreplace (content : String) :
      ∃ t', WriteBack.replace s.files (Path.join ".".toList name.toList) content = (t', .ok ()) :=
    WriteBack.exists_replace_current hname htemporary htext hfree
  rw [← hroot] at htext hreplace
  exact hfiled.gone_temporaryFile hs hrejects
    (hfiled.marker_eq htext (hinfo ▸ insertInto_x) (hreplace _))

/-- The first file is marked, and the second one gone, when an issue has been filed for either of
them. -/
theorem exists_filed_clashing : ∃ report s₁ created s₂ created' s₃,
    Step (.undisturbed "." (· = false)) (sample ".c2i.tmp" clashing)
        (.scanned (.ofTree clashing "." false) (.ok report)) s₁ ∧
      report.failedFiles = [] ∧
      Step (.undisturbed "." (· = false)) s₁
        (.created ".a.c2i.tmp.c2i.tmp" 1 false (some (.ok sampleIssue)) (.ok created)) s₂ ∧
      Step (.undisturbed "." (· = false)) s₂
        (.created "a.c2i.tmp" 1 false (some (.ok sampleIssue)) (.ok created')) s₃ ∧
      Settled s₃ ∧ s₃.workspace.store.Ready s₃.files ∧ s₃.Readable ∧
      s₃.workspace.Gone s₃.files ".a.c2i.tmp.c2i.tmp" := by
  have hgives := ScanPattern.firstLine_mem_scanContent_x
  have hfresh : clashing.get? [StateStore.stateFile] = none := by
    rw [clashing, FileTree.get?_set (by simp), FileTree.get?_single _ _ _ (by simp)]
    decide
  obtain ⟨report, s₁, created, s₂, hscan, hread, hrescans, hcreate, hinfo, hfiled, hready₂,
    hreadable₂⟩ := exists_filed_sample holdsTexts_clashing rejects_clashing hfresh
      (isPlain_clashing ".a.c2i.tmp.c2i.tmp" (by simp)) (by decide) (by decide)
      (get?_clashing _ (by simp)) (hgives _) false (fun _ => by decide) sampleIssue
      fun _ _ => isText_of_insertInto_x
  have hsetup₁ := hscan.sameSetup
  have hsetup₂ := hsetup₁.trans hcreate.sameSetup
  have hrejects₁ : ∀ name ∈ StateStore.ownNames, s₁.workspace.filter.accepts name = false := by
    rw [hsetup₁.filter]
    exact rejects_clashing
  have hrejects₂ : ∀ name ∈ StateStore.ownNames, s₂.workspace.filter.accepts name = false := by
    rw [hsetup₂.filter]
    exact rejects_clashing
  obtain ⟨hs₁, hrows₁⟩ := settled_of_scan (s := sample ".c2i.tmp" clashing)
    holdsTexts_clashing.wellNamed rejects_clashing hscan hread
  have hcreate₁ : Step (.undisturbed s₁.workspace.root (· = false)) s₁
      (.created ".a.c2i.tmp.c2i.tmp" 1 false (some (.ok sampleIssue)) (.ok created)) s₂ := by
    rw [hsetup₁.root]
    exact hcreate
  have hs₂ := settled_step hs₁ (hrejects₁ _ (by decide)) hcreate₁ trivial
  -- the first file has not been touched
  have hmem₁ := mem_shown_sample hrescans hfresh (isPlain_clashing "a.c2i.tmp" (by simp))
    (by decide) (by decide) (get?_clashing _ (by simp)) (hgives _)
  have hmem₂ := hfiled.mem_shown_of_ne hmem₁ (by simp [identity, firstLine])
  have hlists : (FileFilter.endingIn ".c2i.tmp").Lists "a.c2i.tmp" :=
    (isPlain_clashing _ (by simp)).lists (by decide)
  have htext₁ := readText_of_scan_sample hrescans rejects_clashing
    (isPlain_clashing "a.c2i.tmp" (by simp)) (by decide) (get?_clashing _ (by simp))
  have htext₂ := hfiled.readText_of_ne hs₁ hrejects₁
    (by rw [hsetup₁.filter]; exact hlists) (by decide) (by decide)
    (by rw [hsetup₁.root]; exact htext₁)
  rw [hsetup₁.root] at htext₂
  -- so it is marked by the next issue
  obtain ⟨created', s₃, hcreate', hinfo', hfiled', hs₃, hready₃, hreadable₃⟩ :=
    exists_filed_x hsetup₂ hs₂ hready₂ hreadable₂ hrejects₂ hmem₂ htext₂
  have htemporary : WriteBack.temporaryFile "a.c2i.tmp" = ".a.c2i.tmp.c2i.tmp" := by decide
  have hfree : s₂.files.get? [".a.c2i.tmp.c2i.tmp"] ≠ some .directory := by
    obtain ⟨content, hcontent⟩ := hfiled.exists_readText hs₁ hrejects₁
      (hrows₁ _ hfiled.mem)
    have hnode := (FileTree.read_eq_ok_iff.mp (FileTree.readText_eq_ok_iff.mp hcontent)).2
    have hplace := Path.location_join_name ".".toList
      (isPlain_clashing ".a.c2i.tmp.c2i.tmp" (by simp)).isName
    rw [FileTree.location_current] at hplace
    rw [hsetup₁.root] at hnode
    rw [← List.nil_append [".a.c2i.tmp.c2i.tmp"], ← hplace]
    exact fun hdir => absurd (hnode.symm.trans hdir) (by simp)
  have hgone := hfiled'.gone_temporaryFile_x hsetup₂ hs₂ hrejects₂ hinfo'
    (isPlain_clashing _ (by simp)) (htemporary ▸ isPlain_clashing _ (by simp)) htext₂
    (htemporary ▸ hfree)
  rw [htemporary, ← hcreate'.sameSetup.gone_iff] at hgone
  exact ⟨report, s₁, created, s₂, created', s₃, hscan, hread, hcreate, hcreate', hs₃, hready₃,
    hreadable₃, hgone⟩

/-- A comment that has been filed is not found, and not linked, once its file has been lost. -/
theorem filed_but_not_found : ∃ report s₁ events s₂,
    clashing.WellNamed ∧
      (∀ name ∈ StateStore.ownNames, (FileFilter.endingIn ".c2i.tmp").accepts name = false) ∧
      (FileFilter.endingIn ".c2i.tmp").RejectsIgnoreFiles (Path.location ".".toList) ∧
      Step (.undisturbed "." (· = false)) (sample ".c2i.tmp" clashing)
        (.scanned (.ofTree clashing "." false) (.ok report)) s₁ ∧
      Run (.undisturbed "." (· = false)) s₁ events s₂ ∧ report.failedFiles = [] ∧
      (∀ e ∈ events, e.Undisturbed ∧ e.Unforced) ∧
      (∃ e ∈ events, e.files ".a.c2i.tmp.c2i.tmp" 1) ∧
      ∀ tracker : ScriptedTracker,
        s₂.workspace.createIssue s₂.files tracker ".a.c2i.tmp.c2i.tmp" 1 false =
          (.error (.commentNotFound ".a.c2i.tmp.c2i.tmp" 1), s₂.workspace, tracker, s₂.files) := by
  obtain ⟨report, s₁, created, s₂, created', s₃, hscan, hread, hcreate, hcreate', hs₃, hready,
    hreadable, hgone⟩ := exists_filed_clashing
  have hsetup := (hscan.sameSetup.trans hcreate.sameSetup).trans hcreate'.sameSetup
  obtain ⟨last, s₄, hlast, hread', hrescans, -⟩ := exists_rescan_sample
    hsetup hs₃.named hready hreadable
  have hlast' : Step (.undisturbed s₃.workspace.root (· = false)) s₃
      (.scanned (.ofTree s₃.files "." false) (.ok last)) s₄ := by
    rw [hsetup.root]
    exact hlast
  have hrejects : s₃.workspace.filter.accepts StateStore.stateFile = false := by
    rw [hsetup.filter]
    exact rejects_clashing _ (by decide)
  have hs₄ := settled_step hs₃ hrejects hlast' hread'
  refine ⟨report, s₁, _, s₄, holdsTexts_clashing.wellNamed, rejects_clashing,
    FileFilter.rejectsIgnoreFiles_endingIn _ _ (by decide), hscan,
    .snoc (.snoc (.snoc (.nil s₁) hcreate) hcreate') hlast, hread, ?_, ?_, fun tracker => ?_⟩
  · simp [Event.Undisturbed, Event.Unforced, hread']
  · simp [Event.files]
  · refine Workspace.createIssue_of_error (Workspace.recordToLink_of_find?_eq_none ?_)
    cases hfind : s₄.workspace.find? s₄.files ".a.c2i.tmp.c2i.tmp" 1 with
    | none => rfl
    | some r =>
      -- a record that is shown would be what a line of the lost file gives
      obtain ⟨hmem, hid⟩ := mem_shown_of_find? hs₄.toTracked hfind
      obtain ⟨files, -, hrecords⟩ := hrescans.listed
      obtain ⟨fresh, -, hgives, rfl⟩ := (hrecords r).mp (hrescans.shown ▸ hmem)
      rw [identity_withNumber] at hid
      rw [← (Prod.mk.inj hid).1] at hgone
      exact absurd hgone hgives.not_gone

end Example

end Session

end TrackedComments

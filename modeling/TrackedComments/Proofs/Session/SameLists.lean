import TrackedComments.Proofs.Session.InStep
import TrackedComments.Proofs.Workspace.Commuting

/-!
# Tree and saved records in a run

What every step keeps holds after a run: identities are unique, and tree and saved records are the
same list unless a link has failed to be saved since they were last put in step. An issue changes
one record, and it is the same one in both lists.

## Main results

* `Session.tracked_run`: what a run keeps.
* `Session.created_replaces`: what an issue changes in the tree and among the saved records.
* `Session.saved_eq_shown_of_run`: both lists are the same unless a link could not be saved.
-/

namespace TrackedComments

open CommentRecord

namespace Session

variable {s s' : Session}

/-- A run keeps what is tracked, and leaves tree and saved records in step unless a link has failed
to be saved since they were last. -/
theorem tracked_run {root : String} {events : List Event} (hs : Tracked s)
    (hroot : s.workspace.root = root)
    (hrejects : s.workspace.filter.accepts StateStore.stateFile = false) {before : Bool}
    (hbefore : before = false → s.saved = s.shown) (h : Run (.outside root) s events s') :
    Tracked s' ∧ (events.foldl outOfStep before = false → s'.saved = s'.shown) := by
  induction h with
  | nil => exact ⟨hs, hbefore⟩
  | snoc hrun hstep ih =>
    obtain ⟨htracked, hsame⟩ := ih
    have hsetup := hrun.sameSetup
    rw [← hroot, ← hsetup.root] at hstep
    obtain ⟨htracked', hout⟩ := tracked_step htracked (hsetup.filter ▸ hrejects) hstep
    rw [List.foldl_append, List.foldl_cons, List.foldl_nil]
    exact ⟨htracked', hout _ hsame⟩

/-- What an issue changes in the tree and among the saved records: the record with its identity. -/
theorem created_replaces (hs : Tracked s)
    (hrejects : s.workspace.filter.accepts StateStore.stateFile = false) {file : String}
    {line : UInt32} {force : Bool} {answer : Option (Except TrackerError IssueInfo)}
    {created : CreatedIssue}
    (h : Step (.outside s.workspace.root) s (.created file line force answer (.ok created)) s') :
    created.record.identity = (file, line) ∧ s'.shown = replaced s.shown created.record ∧
      s'.saved = replaced s.saved created.record ∧ created.record ∈ s'.shown ∧
      created.record ∈ s'.saved := by
  cases h with
  | create hedits hcreate =>
    rcases hcreate.cases with ⟨e, -, hresult, -⟩ | ⟨_, e, _, -, -, hresult, -⟩ |
      ⟨record, info, _, t₁, hrecord, hcreated, hlink⟩
    · simp at hresult
    · simp at hresult
    · have hedit := hedits record
      rw [hcreated] at hedit
      obtain ⟨hmem, hid⟩ := mem_shown_of_find? hs (Workspace.recordToLink_eq_ok hrecord).1
      obtain ⟨linked, hid', -, hshown, hsaved⟩ :=
        link_replaces hs hrejects hedit.1 hedit.2 hmem hlink
      rcases hsaved with ⟨_, _, hresult, -⟩ | ⟨marker, hresult, hsaved⟩
      · simp at hresult
      · obtain rfl := Except.ok.inj hresult
        obtain ⟨r, hr, hcore⟩ := exists_mem_saved hs hmem
        refine ⟨hid'.trans hid, hshown, hsaved, ?_, ?_⟩
        · exact hshown ▸ mem_replaced hmem hid'.symm
        · exact hsaved ▸ mem_replaced hr ((identity_eq_of_core_eq hcore).trans hid'.symm)

/-- Tree and saved records stay in step. After a scan that has succeeded, and whatever has happened
since, identities are pairwise distinct, and both lists are the same unless a link has failed to be
saved since the last scan or look at the saved records; and an issue that is created changes the
record with its identity in both lists, and nothing else. -/
theorem saved_eq_shown_of_run {s₀ s₁ s₂ : Session} {source : FileSource} {report : ScanReport}
    {events : List Event} (hnamed : s₀.files.WellNamed)
    (hrejects : ∀ name ∈ StateStore.ownNames, s₀.workspace.filter.accepts name = false)
    (hscan : Step (.outside s₀.workspace.root) s₀ (.scanned source (.ok report)) s₁)
    (hrun : Run (.outside s₀.workspace.root) s₁ events s₂) :
    (s₂.shown.map identity).Nodup ∧
      (events.foldl outOfStep false = false → s₂.saved = s₂.shown) ∧
      ∀ {file line force answer created s₃},
        Step (.outside s₀.workspace.root) s₂ (.created file line force answer (.ok created)) s₃ →
          created.record.identity = (file, line) ∧ s₃.shown = replaced s₂.shown created.record ∧
            s₃.saved = replaced s₂.saved created.record ∧ created.record ∈ s₃.shown ∧
            created.record ∈ s₃.saved := by
  have hsetup₁ := hscan.sameSetup
  have hsetup₂ := hrun.sameSetup
  have hstate := hrejects StateStore.stateFile (by decide)
  cases hscan with
  | scan hsource hscan =>
    obtain ⟨respectIgnore, rfl⟩ := hsource
    obtain ⟨htracked₁, hstep₁⟩ := tracked_of_scan hnamed hscan.scan_eq
    obtain ⟨htracked₂, hsame⟩ := tracked_run htracked₁ hsetup₁.root (hsetup₁.filter ▸ hstate)
      (fun _ => hstep₁) hrun
    refine ⟨htracked₂.distinct, hsame, fun hcreated => ?_⟩
    rw [← hsetup₁.root, ← hsetup₂.root] at hcreated
    exact created_replaces htracked₂ (hsetup₂.filter ▸ hsetup₁.filter ▸ hstate) hcreated

section Example

/-- The files of the example. -/
def twoLines : FileTree :=
  .single "a.ts" "x\ny"

/-- A file of two lines is scanned, an issue is filed for the first line, and the saved records are
shown. Tree and saved records are the same, and they are changed in one place each by an issue for
the second line. -/
theorem saved_eq_shown_of_twoLines : ∃ report s₁ created s₂ created' s₃,
    Step (.outside ".") (sample ".ts" twoLines) (.scanned (.ofTree twoLines "." false) (.ok report))
        s₁ ∧
      Run (.outside ".") s₁
        [.created "a.ts" 1 false (some (.ok sampleIssue)) (.ok created), .loaded] s₂ ∧
      Step (.outside ".") s₂ (.created "a.ts" 2 true (some (.ok sampleIssue)) (.ok created')) s₃ ∧
      (s₂.shown.map identity).Nodup ∧ s₂.saved = s₂.shown ∧
      created'.record.identity = ("a.ts", 2) ∧ s₃.shown = replaced s₂.shown created'.record ∧
      s₃.saved = replaced s₂.saved created'.record ∧ created'.record ∈ s₃.shown ∧
      created'.record ∈ s₃.saved := by
  have hfiles : twoLines.HoldsTexts :=
    FileTree.holdsTexts_single FileTree.isPlain_aTs Workspace.isText_twoLines
  have hnode : twoLines.get? ["a.ts"] = some (.file "x\ny".toUTF8) :=
    FileTree.get?_single _ _ _ (by decide)
  have hfresh : twoLines.get? [StateStore.stateFile] = none :=
    FileTree.get?_single _ _ _ (by decide)
  have hrejects := rejects_ts twoLines
  obtain ⟨hx, hy⟩ := Workspace.commentAt_mem_scanContent
  -- the scan shows both lines
  obtain ⟨report, s₁, hscan, hread, hrescans, hready₁⟩ := exists_rescan_sample
    (s := sample ".ts" twoLines) (.refl _) hfiles.wellNamed hfiles.ready (readable_sample hfiles)
  obtain ⟨hs₁, hrows₁⟩ :=
    settled_of_scan (s := sample ".ts" twoLines) hfiles.wellNamed hrejects hscan hread
  have hshown {fresh : CommentRecord}
      (hgives : fresh ∈ ScanPattern.everyLine.scanContent "a.ts" "x\ny") : fresh ∈ s₁.shown :=
    mem_shown_sample hrescans hfresh FileTree.isPlain_aTs (by decide) (by decide) hnode hgives
  have hsetup₁ := hscan.sameSetup
  have hrejects₁ : ∀ name ∈ StateStore.ownNames, s₁.workspace.filter.accepts name = false := by
    rw [hsetup₁.filter]
    exact hrejects
  -- an issue is filed for the first line
  obtain ⟨created, s, hcreate, -, hfiled, hready⟩ := exists_filing (· = false) hs₁ hready₁
    (hrejects₁ _ (by decide)) (hshown hx) (hrows₁ _ (hshown hx)) false (fun _ => rfl) sampleIssue
  have hrun : Run (.undisturbed s₁.workspace.root (· = false)) s₁
      [.created "a.ts" 1 false (some (.ok sampleIssue)) (.ok created), .loaded] _ :=
    .snoc (.snoc (.nil s₁) hcreate) (.load s)
  obtain ⟨hs₂, hrows₂⟩ : Settled ⟨s.workspace.loadPersisted s.files, s.files⟩ ∧
      RowsAsRead "a.ts" ⟨s.workspace.loadPersisted s.files, s.files⟩ := by
    refine rowsAsRead_of_run hs₁ (fun r hr _ => hrows₁ r hr) rfl hrejects₁ hrun fun e he => ?_
    simp only [List.mem_cons, List.not_mem_nil, or_false] at he
    rcases he with rfl | rfl
    · exact ⟨trivial, Event.not_overwrites_aTs⟩
    · exact ⟨trivial, by simp [Event.Overwrites]⟩
  have hsetup₂ := hsetup₁.trans hrun.sameSetup
  -- and another one for the second line
  have hmem : Workspace.commentAt 2 "y" ∈
      shown ⟨s.workspace.loadPersisted s.files, s.files⟩ := by
    have hs := settled_step hs₁ (hrejects₁ _ (by decide)) hcreate trivial
    rw [shown_loadPersisted, hs.same]
    exact hfiled.mem_shown_of_ne (hshown hy) (by decide)
  have hready₂ : (s.workspace.loadPersisted s.files).store.Ready s.files := hready
  obtain ⟨created', s₃, hcreate', -⟩ := exists_filing (· = false) hs₂ hready₂
    (hsetup₂.filter ▸ hrejects _ (by decide)) hmem (hrows₂ _ hmem rfl) true nofun sampleIssue
  have hscan' := hscan.outside hfiles.wellNamed
  have hrun' : Run (.outside s₁.workspace.root) s₁
      [.created "a.ts" 1 false (some (.ok sampleIssue)) (.ok created), .loaded] _ :=
    .snoc (.snoc (.nil s₁) (hcreate.outside hs₁.named)) (.load s)
  have hcreated := hcreate'.outside hs₂.named
  rw [hsetup₁.root] at hrun'
  rw [hsetup₂.root] at hcreated
  obtain ⟨hdistinct, hsame, hreplaces⟩ :=
    saved_eq_shown_of_run hfiles.wellNamed hrejects hscan' hrun'
  exact ⟨report, s₁, created, _, created', s₃, hscan', hrun', hcreated, hdistinct, hsame rfl,
    hreplaces hcreated⟩

end Example

end Session

end TrackedComments

import TrackedComments.Proofs.Workspace
import TrackedComments.Proofs.WriteBack.Insertion
import TrackedComments.Proofs.Writers.Attempts

/-!
# Operations that may be broken off

The operations of a workspace do all that the tree of files lets them do. The system may break off a
save or the write-back of a marker for reasons that a tree does not show. A save that is broken off
fails the operation. A write-back that is broken off does not: the issue is there by then, so its
link is shown and saved without the marker. What it has written so far stays in the temporary file.

## Main definitions

* `Workspace.MarkerAttempt`, `Workspace.LinkAttempt`, `Workspace.CreateAttempt`: the ways in which a
  marker, a link and the creation of an issue can end.
* `Workspace.ScanAttempt`: the ways in which a scan can end.

## Main results

* `Workspace.MarkerAttempt.cases`: a marker is written, or its file stays as it is.
* `Workspace.CreateAttempt.cases`, `Workspace.ScanAttempt.cases`: how the operations can end.
-/

namespace TrackedComments

/-- What has become of a marker, by how its write-back ends. -/
def MarkerWrite.ofResult (file : String) (line : UInt32) :
    Except WriteBackFault WriteBackOutcome → MarkerWrite
  | .ok outcome => .written outcome
  | .error fault => .failed (fault.toError file line)

namespace Workspace

/-! ### Ways to end -/

/-- The ways in which writing the marker for a record can end, with the tree that is left. -/
def MarkerAttempt (w : Workspace) (t : FileTree) (record : CommentRecord) (number : UInt64)
    (marker : MarkerWrite) (t' : FileTree) : Prop :=
  ∃ result, WriteBack.Attempt t w.root record.file record.line number (some record.text) t'
      result ∧ marker = .ofResult record.file record.line result

/-- The ways in which a link can end: the marker is written or not, the link is shown, and saving it
succeeds or fails. -/
def LinkAttempt (w : Workspace) (t : FileTree) (record : CommentRecord) (info : IssueInfo)
    (result : Except Error CreatedIssue) (w' : Workspace) (t' : FileTree) : Prop :=
  ∃ marker t₁ saved, w.MarkerAttempt t record info.number marker t₁ ∧
    w' = w.showLink (linkedRecord record info.number marker) info.number marker ∧
    w.store.SaveAttempt t₁ (StateStore.linkRecord (w.store.load t₁)
      (linkedRecord record info.number marker) info.number) t' saved ∧
    result = saved.map fun _ => { info, record := linkedRecord record info.number marker, marker }

/-- The ways in which the creation of an issue can end. -/
inductive CreateAttempt {τ : Type} [IssueTracker τ] (w : Workspace) (t : FileTree) (tracker : τ)
    (file : String) (line : UInt32) (force : Bool) :
    Except Error CreatedIssue → Workspace → FileTree → Prop where
  /-- The system does all that the tree lets it do. -/
  | done {result : Except Error CreatedIssue} {w' : Workspace} {tracker' : τ} {t' : FileTree} :
      w.createIssue t tracker file line force = (result, w', tracker', t') →
      CreateAttempt w t tracker file line force result w' t'
  /-- An issue has been filed, and writing its marker or saving its link may be broken off. -/
  | filed {record : CommentRecord} {info : IssueInfo} {tracker' : τ} {t₁ t' : FileTree}
      {result : Except Error CreatedIssue} {w' : Workspace} :
      w.recordToLink t (IssueTracker.missingSettings tracker) file line force = .ok record →
      IssueTracker.createIssue tracker t record = (.ok info, tracker', t₁) →
      w.LinkAttempt t₁ record info result w' t' →
      CreateAttempt w t tracker file line force result w' t'

/-- The ways in which a scan can end. -/
inductive ScanAttempt (w : Workspace) (t : FileTree) (source : FileSource) :
    Except Error ScanReport → Workspace → FileTree → Prop where
  /-- The system does all that the tree lets it do. -/
  | done {result : Except Error ScanReport} {w' : Workspace} {t' : FileTree} :
      w.scan t source = (result, w', t') → ScanAttempt w t source result w' t'
  /-- The report is there, and saving it has failed. -/
  | unsaved {report : ScanReport} {e : Error} {t' : FileTree} : w.report t source = .ok report →
      w.store.SaveAttempt t report.records t' (.error e) → ScanAttempt w t source (.error e) w t'

variable {w w' : Workspace} {t t' : FileTree} {record : CommentRecord} {info : IssueInfo}

/-! ### Markers -/

/-- What the tree of files lets be done is one of the ways to end. -/
theorem markerAttempt_of_writeMarker {number : UInt64} {marker : MarkerWrite}
    (h : w.writeMarker t record number = (marker, t')) :
    w.MarkerAttempt t record number marker t' := by
  unfold writeMarker at h
  split at h
  · rename_i hinsert
    obtain ⟨rfl, rfl⟩ := Prod.mk.inj h
    exact ⟨_, .done hinsert, rfl⟩
  · rename_i hinsert
    obtain ⟨rfl, rfl⟩ := Prod.mk.inj h
    exact ⟨_, .done hinsert, rfl⟩

/-- What is left if a marker has not been written: a temporary file, unless the line is marked
already. -/
structure Spares (w : Workspace) (names : Location) (marker : MarkerWrite) (t t' : FileTree) :
    Prop where
  not_inserted : ∀ text, marker ≠ .written (.inserted text)
  untouched : marker = .written .alreadyMarked → t' = t
  frame : t.ChangesOnly [Path.location w.root.toList ++ WriteBack.temporaryNames names] t'
  named : t.WellNamed → t'.WellNamed

section Marker

variable {number : UInt64} {marker : MarkerWrite} {names : Location} (hne : names ≠ [])
  (hnames : AreNames names) (hfile : record.file = pathOf names)
  (h : w.MarkerAttempt t record number marker t')

include hne hnames hfile h

/-- A marker is written, or its file stays as it is. -/
theorem MarkerAttempt.cases :
    w.Spares names marker t t' ∨
      ∃ text, marker = .written (.inserted text) ∧ w.Inserts record number names text t t' := by
  obtain ⟨result, hattempt, rfl⟩ := h
  cases hattempt with
  | done hinsert =>
    have hmarker : w.writeMarker t record number =
        (.ofResult record.file record.line result, t') := by
      unfold writeMarker
      rw [hinsert]
      cases result <;> rfl
    rcases writeMarker_cases hne hnames hfile hmarker with ⟨rfl, hnot⟩ | hinserts
    · exact .inl ⟨hnot, fun _ => rfl, .refl _ _, id⟩
    · exact .inr hinserts
  | notBegun => exact .inl ⟨fun _ => nofun, nofun, .refl _ _, id⟩
  | brokenOff _ hread hinto hprepared =>
    have hframe := hprepared.changesOnly
    rw [WriteBack.pathOfFile, hfile, WriteBack.location_temporaryPath _ hne hnames] at hframe
    exact .inl ⟨fun _ => nofun, nofun, hframe, hprepared.wellNamed⟩

/-- Whether a marker is written or not, it is written to one file by way of another one. -/
theorem MarkerAttempt.changesOnly :
    t.ChangesOnly [Path.location w.root.toList ++ WriteBack.temporaryNames names,
        Path.location w.root.toList ++ names] t' ∧ (t.WellNamed → t'.WellNamed) := by
  rcases h.cases hne hnames hfile with hspares | ⟨text, -, hinserts⟩
  · exact ⟨hspares.frame.mono (by simp), hspares.named⟩
  · exact ⟨hinserts.frame, hinserts.named⟩

end Marker

/-! ### Links and issues -/

/-- What the tree of files lets be done is one of the ways to end. -/
theorem linkAttempt_of_link {result : Except Error CreatedIssue}
    (h : w.link t record info = (result, w', t')) : w.LinkAttempt t record info result w' t' := by
  obtain ⟨marker, t₁, saved, hmarker, hw, hsave, hresult⟩ := link_cases h
  exact ⟨marker, t₁, saved, markerAttempt_of_writeMarker hmarker, hw, .done hsave, hresult⟩

section Create

variable {τ : Type} [IssueTracker τ] {tracker : τ} {file : String} {line : UInt32} {force : Bool}
  {result : Except Error CreatedIssue}

/-- An issue is refused before the tracker is asked, or refused by the tracker, or linked. -/
theorem CreateAttempt.cases (h : w.CreateAttempt t tracker file line force result w' t') :
    (∃ e, w.recordToLink t (IssueTracker.missingSettings tracker) file line force = .error e ∧
        result = .error e ∧ w' = w ∧ t' = t) ∨
      (∃ record e tracker',
        w.recordToLink t (IssueTracker.missingSettings tracker) file line force = .ok record ∧
        IssueTracker.createIssue tracker t record = (.error e, tracker', t') ∧
        result = .error (.tracker e) ∧ w' = w) ∨
      ∃ record info tracker' t₁,
        w.recordToLink t (IssueTracker.missingSettings tracker) file line force = .ok record ∧
        IssueTracker.createIssue tracker t record = (.ok info, tracker', t₁) ∧
        w.LinkAttempt t₁ record info result w' t' := by
  cases h with
  | done h =>
    rcases createIssue_cases h with hrefused | ⟨record, e, hrecord, hcreate, hresult⟩ |
      ⟨record, info, t₁, hrecord, hcreate, hlink⟩
    · exact .inl hrefused
    · exact .inr (.inl ⟨record, e, _, hrecord, hcreate, hresult⟩)
    · exact .inr (.inr ⟨record, info, _, t₁, hrecord, hcreate, linkAttempt_of_link hlink⟩)
  | filed hrecord hcreate hlink => exact .inr (.inr ⟨_, _, _, _, hrecord, hcreate, hlink⟩)

/-- The creation of an issue changes nothing of what a workspace was set up with. -/
theorem CreateAttempt.sameSetup (h : w.CreateAttempt t tracker file line force result w' t') :
    SameSetup w w' := by
  rcases h.cases with ⟨_, -, -, rfl, -⟩ | ⟨_, _, _, -, -, -, rfl⟩ |
    ⟨_, _, _, _, -, -, _, _, _, -, rfl, -⟩
  · exact .refl w'
  · exact .refl w'
  · exact sameSetup_showLink w _ _ _

end Create

/-! ### Scans -/

section Scan

variable {source : FileSource}

/-- A scan lists no files, or cannot save its records, or shows and saves them. -/
theorem ScanAttempt.cases {result : Except Error ScanReport}
    (h : w.ScanAttempt t source result w' t') :
    (∃ e, result = .error e ∧ w' = w ∧ t' = t) ∨
      (∃ (report : ScanReport) (e : Error), w.store.SaveAttempt t report.records t' (.error e) ∧
        result = .error e ∧ w' = w) ∨
      ∃ report, w.scan t source = (.ok report, w', t') ∧ result = .ok report := by
  cases h with
  | done h =>
    rcases scan_cases h with hnone | ⟨report, e, -, hsave, hresult, hw⟩ |
      ⟨report, -, -, rfl, -⟩
    · exact .inl hnone
    · exact .inr (.inl ⟨report, e, .done hsave, hresult, hw⟩)
    · exact .inr (.inr ⟨report, h, rfl⟩)
  | unsaved _ hsave => exact .inr (.inl ⟨_, _, hsave, rfl, rfl⟩)

/-- A scan that succeeds has not been broken off. -/
theorem ScanAttempt.scan_eq {report : ScanReport}
    (h : w.ScanAttempt t source (.ok report) w' t') : w.scan t source = (.ok report, w', t') := by
  cases h with
  | done h => exact h

/-- A scan changes nothing of what a workspace was set up with. -/
theorem ScanAttempt.sameSetup {result : Except Error ScanReport}
    (h : w.ScanAttempt t source result w' t') : SameSetup w w' := by
  rcases h.cases with ⟨_, -, rfl, -⟩ | ⟨_, _, -, -, rfl⟩ | ⟨_, hscan, -⟩
  · exact .refl w'
  · exact .refl w'
  · exact sameSetup_of_scan hscan

end Scan

end Workspace

end TrackedComments

import TrackedComments.Proofs.FileTree.Texts
import TrackedComments.Proofs.Glob.Suffix
import TrackedComments.Proofs.Scan.EveryLine
import TrackedComments.Proofs.Workspace
import TrackedComments.Tracker.Scripted

/-!
# What failed operations leave behind

A scan that fails leaves all files as they were, save for the temporary file and the lock file of
the store. So does the creation of an issue, unless the issue exists and only its link could not be
saved. In both cases the tree shows what it showed, and nobody is told of a change.

A tracker is asked for one issue at most, and for none if the comment is refused. To say so, a
tracker is watched: what it answers is the same, and it remembers what it has been asked for.

## Main results

* `Workspace.createIssue_watched`: watching a tracker shows what it is asked for.
* `Workspace.askedFor_eq_nil_iff`: when a tracker is asked.
* `Workspace.unchanged_of_failure`: a failed operation changes nothing.
-/

namespace TrackedComments

/-! ### Watching a tracker -/

/-- A tracker and the comments that it has been asked to create issues for. -/
structure WatchedTracker (τ : Type) where
  tracker : τ
  asked : List CommentRecord

instance {τ : Type} [IssueTracker τ] : IssueTracker (WatchedTracker τ) where
  missingSettings watched := IssueTracker.missingSettings watched.tracker
  createIssue watched t record :=
    let (answer, tracker, t) := IssueTracker.createIssue watched.tracker t record
    (answer, ⟨tracker, watched.asked ++ [record]⟩, t)
  remoteUrl watched := IssueTracker.remoteUrl watched.tracker
  permalink watched := IssueTracker.permalink watched.tracker

/-- Whether a failure says that a comment cannot be linked as it is. -/
def Error.IsRefusal : Error → Prop
  | .commentNotFound _ _ | .alreadyLinked _ _ _ | .staleComment _ _ => True
  | _ => False

namespace Workspace

variable {τ : Type} [IssueTracker τ] {w w' : Workspace} {t t' : FileTree} {tracker tracker' : τ}
  {file : String} {line : UInt32} {force : Bool} {result : Except Error CreatedIssue}

/-! ### When a tracker is asked -/

/-- The comments that a tracker is asked to create issues for. -/
def askedFor (w : Workspace) (t : FileTree) (tracker : τ) (file : String) (line : UInt32)
    (force : Bool) : List CommentRecord :=
  (w.recordToLink t (IssueTracker.missingSettings tracker) file line force).toOption.toList

/-- Watching a tracker shows what it is asked for and changes nothing else. -/
theorem createIssue_watched (asked : List CommentRecord)
    (h : w.createIssue t tracker file line force = (result, w', tracker', t')) :
    w.createIssue t (WatchedTracker.mk tracker asked) file line force =
      (result, w', ⟨tracker', asked ++ w.askedFor t tracker file line force⟩, t') := by
  have hmissing : IssueTracker.missingSettings (WatchedTracker.mk tracker asked) =
      IssueTracker.missingSettings tracker := rfl
  unfold askedFor
  cases hrecord : w.recordToLink t (IssueTracker.missingSettings tracker) file line force with
  | error e =>
    rw [createIssue_of_error hrecord] at h
    obtain ⟨rfl, rfl, rfl, rfl⟩ : .error e = result ∧ w = w' ∧ tracker = tracker' ∧ t = t' := by
      simpa using h
    rw [createIssue_of_error (hmissing ▸ hrecord)]
    simp [Except.toOption]
  | ok record =>
    obtain ⟨⟨answer, tracker₁, t₁⟩, hanswer⟩ :
        ∃ answered, IssueTracker.createIssue tracker t record = answered := ⟨_, rfl⟩
    have hwatched : IssueTracker.createIssue (WatchedTracker.mk tracker asked) t record =
        (answer, ⟨tracker₁, asked ++ [record]⟩, t₁) := by
      change (let (answer, tracker, t) := IssueTracker.createIssue tracker t record
        (answer, WatchedTracker.mk tracker (asked ++ [record]), t)) = _
      rw [hanswer]
    cases answer with
    | error e =>
      rw [createIssue_of_tracker_error hrecord hanswer] at h
      obtain ⟨rfl, rfl, rfl, rfl⟩ :
          .error (.tracker e) = result ∧ w = w' ∧ tracker₁ = tracker' ∧ t₁ = t' := by
        simpa using h
      exact createIssue_of_tracker_error hrecord hwatched
    | ok info =>
      obtain ⟨⟨result₁, w₁, t₂⟩, hlink⟩ : ∃ linked, w.link t₁ record info = linked := ⟨_, rfl⟩
      rw [createIssue_of_link hrecord hanswer hlink] at h
      obtain ⟨rfl, rfl, rfl, rfl⟩ :
          result₁ = result ∧ w₁ = w' ∧ tracker₁ = tracker' ∧ t₂ = t' := by
        simpa using h
      exact createIssue_of_link hrecord hwatched hlink

/-- A comment is refused as it is, or because settings are missing. -/
theorem recordToLink_eq_error {missing : List String} {e : Error}
    (h : w.recordToLink t missing file line force = .error e) :
    e.IsRefusal ∨ missing ≠ [] ∧ e = .tracker (.notConfigured missing) := by
  unfold recordToLink at h
  split at h
  · obtain rfl := Except.error.inj h
    exact .inl trivial
  · split at h
    · obtain rfl := Except.error.inj h
      exact .inl trivial
    · split at h
      · rename_i hmissing
        obtain rfl := Except.error.inj h
        exact .inr ⟨by simpa using hmissing, rfl⟩
      · split at h
        · obtain rfl := Except.error.inj h
          exact .inl trivial
        · simp at h

/-- While settings are missing no comment is linked. -/
theorem missing_eq_nil_of_recordToLink {missing : List String} {record : CommentRecord}
    (h : w.recordToLink t missing file line force = .ok record) : missing = [] := by
  unfold recordToLink at h
  split at h
  · simp at h
  · split at h
    · simp at h
    · split at h
      · simp at h
      · rename_i hmissing
        simpa using hmissing

/-- A link fails only in that it cannot be saved. -/
theorem error_of_link_error {record : CommentRecord} {info : IssueInfo} {e : Error}
    (h : w.link t record info = (.error e, w', t')) :
    ∃ path message, e = .stateSave path message := by
  obtain ⟨marker, t₁, saved, -, -, hsave, hresult⟩ := link_cases h
  cases saved with
  | error e' =>
    obtain ⟨message, rfl⟩ := StateStore.error_of_save_error hsave
    exact ⟨_, message, Except.error.inj hresult⟩
  | ok _ => simp [Except.map] at hresult

/-- A tracker is asked unless the comment is refused or settings are missing. -/
theorem askedFor_eq_nil_iff
    (h : w.createIssue t tracker file line force = (result, w', tracker', t')) :
    w.askedFor t tracker file line force = [] ↔
      ∃ e, result = .error e ∧ (e.IsRefusal ∨ IssueTracker.missingSettings tracker ≠ [] ∧
        e = .tracker (.notConfigured (IssueTracker.missingSettings tracker))) := by
  unfold askedFor
  rcases createIssue_cases h with ⟨e, hrecord, rfl, -, -⟩ | ⟨record, e, hrecord, -, rfl, -⟩ |
    ⟨record, info, t₁, hrecord, -, hlink⟩
  · rw [hrecord]
    exact iff_of_true rfl ⟨e, rfl, recordToLink_eq_error hrecord⟩
  · rw [hrecord]
    refine iff_of_false (by simp [Except.toOption]) ?_
    rintro ⟨_, he, hrefused | ⟨hmissing, -⟩⟩
    · obtain rfl := Except.error.inj he
      exact hrefused
    · exact hmissing (missing_eq_nil_of_recordToLink hrecord)
  · rw [hrecord]
    refine iff_of_false (by simp [Except.toOption]) ?_
    rintro ⟨e, rfl, hrefused | ⟨hmissing, -⟩⟩
    · obtain ⟨path, message, rfl⟩ := error_of_link_error hlink
      exact hrefused
    · exact hmissing (missing_eq_nil_of_recordToLink hrecord)

/-! ### What is left behind -/

/-- A scan that fails leaves no more behind than the files that a save works with. -/
theorem unchanged_of_scan_error {source : FileSource} {e : Error}
    (h : w.scan t source = (.error e, w', t')) :
    w' = w ∧ t.KeepsContents w.store.workPlaces t' ∧
      t'.contentAt? (w.store.place StateStore.stateFile) =
        t.contentAt? (w.store.place StateStore.stateFile) := by
  rcases scan_cases h with ⟨_, -, rfl, rfl⟩ | ⟨report, e', -, hsave, -, rfl⟩ |
    ⟨_, -, -, hresult, -⟩
  · exact ⟨rfl, .refl _ _, rfl⟩
  · rcases StateStore.save_cases hsave with ⟨_, -, -, hresult⟩ | ⟨failure, _, hprep, -⟩
    · simp at hresult
    · exact ⟨rfl, StateStore.keepsContents_of_prefix List.prefix_rfl hprep⟩
  · simp at hresult

/-- An issue that is not created leaves nothing behind, unless it has been filed but its link could
not be saved. -/
theorem unchanged_of_createIssue_error {e : Error}
    (hkeeps : ∀ record, (IssueTracker.createIssue tracker t record).2.2 = t)
    (h : w.createIssue t tracker file line force = (.error e, w', tracker', t'))
    (he : ∀ path message, e ≠ .stateSave path message) : w' = w ∧ t' = t := by
  rcases createIssue_cases h with ⟨_, -, -, rfl, rfl⟩ | ⟨record, _, -, hcreate, -, rfl⟩ |
    ⟨record, info, t₁, -, -, hlink⟩
  · exact ⟨rfl, rfl⟩
  · have hsame := hkeeps record
    rw [hcreate] at hsame
    exact ⟨rfl, hsame⟩
  · obtain ⟨path, message, rfl⟩ := error_of_link_error hlink
    exact absurd rfl (he path message)

/-- A failed operation changes nothing. A scan that fails, whichever step of the save it fails in
and for whatever reason, leaves the workspace as it was and all files but the temporary file and the
lock file of the store. An issue that is not created leaves the workspace and all files as they
were, unless it has been filed and its link cannot be saved. The tracker is asked at most once, and
not at all exactly if the comment is refused or settings are missing. -/
theorem unchanged_of_failure (w : Workspace) (t : FileTree) :
    (∀ {source : FileSource} {e : Error} {w' : Workspace} {t' : FileTree},
      w.scan t source = (.error e, w', t') →
      w' = w ∧ t.KeepsContents w.store.workPlaces t' ∧
        t'.contentAt? (w.store.place StateStore.stateFile) =
          t.contentAt? (w.store.place StateStore.stateFile)) ∧
    (∀ {records : List CommentRecord} {steps : List SaveStep} {failure : Option OsError}
        {t' : FileTree}, steps <+: StateStore.preparation →
      w.store.runSteps (StateText.write records) t steps = (t', failure) →
      t.KeepsContents w.store.workPlaces t' ∧
        t'.contentAt? (w.store.place StateStore.stateFile) =
          t.contentAt? (w.store.place StateStore.stateFile)) ∧
    ∀ {τ : Type} [IssueTracker τ] {tracker tracker' : τ} {file : String} {line : UInt32}
        {force : Bool} {result : Except Error CreatedIssue} {w' : Workspace} {t' : FileTree},
      (∀ record, (IssueTracker.createIssue tracker t record).2.2 = t) →
      w.createIssue t tracker file line force = (result, w', tracker', t') →
      (∀ e, result = .error e → (∀ path message, e ≠ .stateSave path message) →
        w' = w ∧ t' = t) ∧
      ∃ asked : List CommentRecord, asked.length ≤ 1 ∧
        (∀ before, w.createIssue t (WatchedTracker.mk tracker before) file line force =
          (result, w', ⟨tracker', before ++ asked⟩, t')) ∧
        (asked = [] ↔ ∃ e, result = .error e ∧
          (e.IsRefusal ∨ IssueTracker.missingSettings tracker ≠ [] ∧
            e = .tracker (.notConfigured (IssueTracker.missingSettings tracker)))) := by
  refine ⟨unchanged_of_scan_error, StateStore.keepsContents_of_prefix,
    fun hkeeps h => ⟨?_, ?_⟩⟩
  · rintro e rfl he
    exact unchanged_of_createIssue_error hkeeps h he
  · refine ⟨w.askedFor t _ _ _ _, ?_, fun before => createIssue_watched before h,
      askedFor_eq_nil_iff h⟩
    exact Option.length_toList_le

section Example

/-- A file with a comment, beside a directory in the place of the lock file. -/
def blocked : FileTree :=
  (FileTree.single "a.ts" "x").set [StateStore.lockFile] .directory

/-- A workspace that shows the comment. -/
def oneComment : Workspace :=
  { root := ".", config := {}, pattern := .everyLine, filter := .endingIn ".ts"
    tree := { comments := [.firstLine "a.ts" "x"] } }

/-- A source without files. -/
def noFiles : FileSource :=
  ⟨fun _ => .ok [], fun file => .error (.unreadable file)⟩

/-- A tracker that is down. -/
def downTracker : ScriptedTracker :=
  { script := [.error (.remote "down")] }

/-- A scan that finds no lock file to open and a tracker that is asked while it is down. -/
theorem unchanged_when_blocked :
    (∃ e w' t', oneComment.scan blocked noFiles = (.error e, w', t') ∧ w' = oneComment ∧
      blocked.KeepsContents oneComment.store.workPlaces t') ∧
    ∃ w' tracker' t', oneComment.createIssue blocked downTracker "a.ts" 1 false =
        (.error (.tracker (.remote "down")), w', tracker', t') ∧
      w' = oneComment ∧ t' = blocked ∧
      ∃ asked : List CommentRecord, asked.length = 1 ∧
        oneComment.createIssue blocked (WatchedTracker.mk downTracker []) "a.ts" 1 false =
          (.error (.tracker (.remote "down")), w', ⟨tracker', asked⟩, t') := by
  obtain ⟨hscan, -, hcreate⟩ := unchanged_of_failure oneComment blocked
  constructor
  · have hfails : (oneComment.scan blocked noFiles).1.toBool = false := by rfl
    obtain ⟨⟨result, w', t'⟩, h⟩ : ∃ outcome, oneComment.scan blocked noFiles = outcome :=
      ⟨_, rfl⟩
    rw [h] at hfails
    cases result with
    | error e =>
      obtain ⟨hw, hkeeps, -⟩ := hscan h
      exact ⟨e, w', t', h, hw, hkeeps⟩
    | ok _ => simp [Except.toBool] at hfails
  · have hfails : (oneComment.createIssue blocked downTracker "a.ts" 1 false).1 =
        .error (.tracker (.remote "down")) := by rfl
    obtain ⟨⟨result, w', tracker', t'⟩, h⟩ :
        ∃ outcome, oneComment.createIssue blocked downTracker "a.ts" 1 false = outcome :=
      ⟨_, rfl⟩
    rw [h] at hfails
    obtain rfl : result = .error (.tracker (.remote "down")) := hfails
    obtain ⟨hsame, asked, hlength, hwatched, hasked⟩ := hcreate (fun _ => rfl) h
    obtain ⟨hw, ht⟩ := hsame _ rfl (by simp)
    refine ⟨w', tracker', t', h, hw, ht, asked, ?_, hwatched []⟩
    have hne : asked ≠ [] := by
      rw [Ne, hasked]
      rintro ⟨e, he, hrefused | ⟨hmissing, -⟩⟩
      · obtain rfl := Except.error.inj he
        exact hrefused
      · exact hmissing rfl
    have hpos := List.length_pos_iff.mpr hne
    omega

end Example

end Workspace

end TrackedComments

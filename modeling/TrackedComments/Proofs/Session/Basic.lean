import TrackedComments.Proofs.Workspace.Attempts

/-!
# Sessions

A session is a workspace with the files that it works on. It takes one step after another: a scan, a
look at the saved records, an issue for a comment, or a change of files by other hands. The trackers
that are asked, the sources that are scanned and the changes from outside are not the session's own
choice; `Surroundings` say what they may be. Nor is it the session's choice whether the system
breaks off a save or the write-back of a marker.

## Main definitions

* `Session.Step`: one step, with the event that it is.
* `Session.Run`: any number of steps, with their events in order.
-/

namespace TrackedComments

/-- A workspace and the files that it works on. -/
structure Session where
  workspace : Workspace
  files : FileTree
  deriving Inhabited

namespace Session

/-- The records that the tree shows. -/
def shown (s : Session) : List CommentRecord :=
  s.workspace.tree.comments

/-- The saved records. -/
def saved (s : Session) : List CommentRecord :=
  s.workspace.store.load s.files

/-- What a tracker answers when an issue is created, if it is asked at all. -/
def answer {τ : Type} [IssueTracker τ] (s : Session) (tracker : τ) (file : String) (line : UInt32)
    (force : Bool) : Option (Except TrackerError IssueInfo) :=
  match s.workspace.recordToLink s.files (IssueTracker.missingSettings tracker) file line force with
  | .error _ => none
  | .ok record => some (IssueTracker.createIssue tracker s.files record).1

/-- What happens in a step, and what comes of it. -/
inductive Event where
  | scanned (source : FileSource) (result : Except Error ScanReport)
  | loaded
  | created (file : String) (line : UInt32) (force : Bool)
      (answer : Option (Except TrackerError IssueInfo)) (result : Except Error CreatedIssue)
  /-- Files have been changed by other hands. -/
  | edited

/-- What a session has no say in. -/
structure Surroundings where
  /-- The sources that may be scanned while the files are as they are. -/
  scans : FileTree → FileSource → Prop
  /-- How other hands may change the files, between two steps or while a tracker is asked. -/
  edits : FileTree → FileTree → Prop

/-- One step of a session. Each issue may be created with another tracker of any kind. -/
inductive Step (env : Surroundings) : Session → Event → Session → Prop where
  | scan {s : Session} {source : FileSource} {result : Except Error ScanReport} {w : Workspace}
      {t : FileTree} : env.scans s.files source →
      s.workspace.ScanAttempt s.files source result w t →
      Step env s (.scanned source result) ⟨w, t⟩
  | load (s : Session) : Step env s .loaded ⟨s.workspace.loadPersisted s.files, s.files⟩
  | create {s : Session} {τ : Type} [IssueTracker τ] {tracker : τ} {file : String}
      {line : UInt32} {force : Bool} {result : Except Error CreatedIssue} {w : Workspace}
      {t : FileTree} :
      (∀ record, env.edits s.files (IssueTracker.createIssue tracker s.files record).2.2) →
      s.workspace.CreateAttempt s.files tracker file line force result w t →
      Step env s (.created file line force (s.answer tracker file line force) result) ⟨w, t⟩
  | edit {s : Session} {t : FileTree} : env.edits s.files t → Step env s .edited ⟨s.workspace, t⟩

/-- Any number of steps, one after another. -/
inductive Run (env : Surroundings) : Session → List Event → Session → Prop where
  | nil (s : Session) : Run env s [] s
  | snoc {s s' s'' : Session} {events : List Event} {event : Event} : Run env s events s' →
      Step env s' event s'' → Run env s (events ++ [event]) s''

variable {env : Surroundings} {s s' s'' : Session}

/-! ### What no step changes -/

/-- A step changes nothing of what the workspace was set up with. -/
theorem Step.sameSetup {event : Event} (h : Step env s event s') :
    s.workspace.SameSetup s'.workspace := by
  cases h with
  | scan _ hscan => exact hscan.sameSetup
  | load => exact Workspace.sameSetup_setComments _ _
  | create _ hcreate => exact hcreate.sameSetup
  | edit => exact .refl _

/-- A run changes nothing of what the workspace was set up with. -/
theorem Run.sameSetup {events : List Event} (h : Run env s events s') :
    s.workspace.SameSetup s'.workspace := by
  induction h with
  | nil => exact .refl _
  | snoc _ hstep ih => exact ih.trans hstep.sameSetup

end Session

end TrackedComments

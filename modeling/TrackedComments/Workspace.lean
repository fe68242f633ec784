import TrackedComments.CommentTree
import TrackedComments.Config
import TrackedComments.Scan.Report
import TrackedComments.Store.Basic
import TrackedComments.WriteBack

/-!
# Workspaces

A workspace ties a configuration, the saved records and the comment tree together. A scan replaces
the saved records and what the tree shows. Creating an issue asks the tracker, writes the marker
into the source file and links the comment in the tree and in the saved records.

All operations take the tree of files and give it back, changed or not, also when they fail.
-/

namespace TrackedComments

/-- What became of the marker of a new issue. -/
inductive MarkerWrite where
  | written (outcome : WriteBackOutcome)
  /-- The source line is as it was; the issue is linked nevertheless. -/
  | failed (error : Error)
  deriving DecidableEq, Repr, Inhabited

/-- The result of creating an issue. -/
structure CreatedIssue where
  info : IssueInfo
  /-- The linked record. -/
  record : CommentRecord
  marker : MarkerWrite
  deriving DecidableEq, Inhabited

/-- A workspace that is worked on. -/
structure Workspace where
  /-- The path of the directory. -/
  root : String
  config : Config
  /-- The pattern of the configuration. -/
  pattern : ScanPattern
  /-- The filter of the configuration. -/
  filter : FileFilter
  tree : CommentTree
  deriving Inhabited

namespace Workspace

/-- The workspace in a directory, with a tree that shows nothing yet. -/
def ofConfig (root : String) (config : Config) : Except Error Workspace := do
  config.validate
  let pattern ← config.scanPattern
  let filter ← config.fileFilter
  .ok { root, config, pattern, filter
        tree := { caseInsensitive := config.view.caseInsensitive } }

/-- The workspace in a directory, with the configuration that is found there. -/
def load (t : FileTree) (root : String) : Except Error Workspace := do
  ofConfig root (← Config.load t root)

/-- The place of the saved records. -/
def store (w : Workspace) : StateStore := ⟨w.root⟩

/-- The files that a scan looks at. -/
def source (w : Workspace) (t : FileTree) : FileSource :=
  .ofTree t w.root w.config.respectGitignore

/-- The workspace with other records in its tree. -/
def setComments (w : Workspace) (comments : List CommentRecord) : Workspace :=
  { w with tree := w.tree.setComments comments }

/-- Shows the saved records. -/
def loadPersisted (w : Workspace) (t : FileTree) : Workspace :=
  w.setComments (w.store.load t)

/-! ### Scanning -/

/-- The report on a source, in which the numbers of unmarked comments are those that the saved
records remember. -/
def report (w : Workspace) (t : FileTree) (source : FileSource) : Except Error ScanReport := do
  let report ← source.scan w.pattern w.filter w.config.concurrency.toNat
  .ok { report with records := reconcile report.records (w.store.load t) }

/-- Scans a source, saves the records and shows them. A scan that fails leaves the tree as it was.
-/
def scan (w : Workspace) (t : FileTree) (source : FileSource) :
    Except Error ScanReport × Workspace × FileTree :=
  match w.report t source with
  | .error e => (.error e, w, t)
  | .ok report =>
    match w.store.save t report.records with
    | (t, .error e) => (.error e, w, t)
    | (t, .ok ()) => (.ok report, w.setComments report.records, t)

/-! ### Creating issues -/

/-- The record with an identity in the tree, or else among the saved records. -/
def find? (w : Workspace) (t : FileTree) (file : String) (line : UInt32) :
    Option CommentRecord :=
  (w.tree.find? file line).or ((w.store.load t).find? (·.isAt file line))

/-- The record of a comment that an issue can be created for. Without force it must not be linked;
the tracker must miss no settings; and the line must read as it did when it was scanned. -/
def recordToLink (w : Workspace) (t : FileTree) (missing : List String) (file : String)
    (line : UInt32) (force : Bool) : Except Error CommentRecord :=
  match w.find? t file line with
  | none => .error (.commentNotFound file line)
  | some record =>
    match record.issueNumber, force with
    | some number, false => .error (.alreadyLinked file line number)
    | _, _ =>
      if !missing.isEmpty then .error (.tracker (.notConfigured missing))
      else if (WriteBack.readLine t w.root file line).toOption != some record.text then
        .error (.staleComment file line)
      else .ok record

/-- Writes the marker of an issue into the line of a record. -/
def writeMarker (w : Workspace) (t : FileTree) (record : CommentRecord) (number : UInt64) :
    MarkerWrite × FileTree :=
  match WriteBack.insert t w.root record.file record.line number (some record.text) with
  | (t, .ok outcome) => (.written outcome, t)
  | (t, .error fault) => (.failed (fault.toError record.file record.line), t)

/-- A record that is linked to an issue. If the marker has been written, its text is the line as it
reads now, so that the removal of the marker is noticed later. -/
def linkedRecord (record : CommentRecord) (number : UInt64) : MarkerWrite → CommentRecord
  | .written (.inserted text) => { record with text }.withIssue number
  | _ => record.withIssue number

/-- Shows a comment as linked. If its line has changed, the records with its identity become the
linked record as a whole. -/
def showLink (w : Workspace) (linked : CommentRecord) (number : UInt64) (marker : MarkerWrite) :
    Workspace :=
  let w := { w with tree := (w.tree.update linked.file linked.line number).2 }
  match marker with
  | .written (.inserted _) =>
    w.setComments
      (w.tree.comments.map fun r => if r.isAt linked.file linked.line then linked else r)
  | _ => w

/-- Links a record to an issue that has just been created: in the source file, in the tree and among
the saved records. A marker that cannot be written is no failure. -/
def link (w : Workspace) (t : FileTree) (record : CommentRecord) (info : IssueInfo) :
    Except Error CreatedIssue × Workspace × FileTree :=
  let (marker, t) := w.writeMarker t record info.number
  let linked := linkedRecord record info.number marker
  let w := w.showLink linked info.number marker
  match w.store.recordIssue t linked info.number with
  | (t, .error e) => (.error e, w, t)
  | (t, .ok _) => (.ok { info, record := linked, marker }, w, t)

/-- Creates an issue for the comment at a line of a file. The tracker is asked only if everything
else allows an issue. -/
def createIssue {τ : Type} [IssueTracker τ] (w : Workspace) (t : FileTree) (tracker : τ)
    (file : String) (line : UInt32) (force : Bool) :
    Except Error CreatedIssue × Workspace × τ × FileTree :=
  match w.recordToLink t (IssueTracker.missingSettings tracker) file line force with
  | .error e => (.error e, w, tracker, t)
  | .ok record =>
    match IssueTracker.createIssue tracker t record with
    | (.error e, tracker, t) => (.error (.tracker e), w, tracker, t)
    | (.ok info, tracker, t) =>
      let (result, w, t) := w.link t record info
      (result, w, tracker, t)

end Workspace

end TrackedComments

import TrackedComments.Error
import TrackedComments.FileTree.Text
import TrackedComments.Store.StateText

/-!
# The state store

The records of a workspace are saved in a file in its root. To save a list, a writer takes an
exclusive lock, writes a temporary file and moves it over the state file, so that a reader finds
either the old list or the new one. What cannot be read counts as no records.

A save is a list of steps, each of which changes the tree of files or fails; the steps before a
failure stay done.
-/

namespace TrackedComments

/-- A place for saved records. -/
structure StateStore where
  /-- The directory of the state file. -/
  dir : String
  deriving DecidableEq, Repr, Inhabited

/-- A step of a save. -/
inductive SaveStep where
  /-- Creates the directory of the state file. -/
  | createDirectory
  /-- Creates the lock file, or empties it. -/
  | openLock
  /-- Waits until no other writer holds the lock, and takes it. -/
  | acquireLock
  /-- Creates the temporary file, or empties it. -/
  | openTemporary
  /-- Writes the text into the temporary file. -/
  | writeTemporary
  /-- Waits until the text is on the disk. -/
  | syncTemporary
  /-- Moves the temporary file over the state file. -/
  | renameTemporary
  /-- Gives the lock back. -/
  | releaseLock
  deriving DecidableEq, Repr, Inhabited

namespace StateStore

/-- The name of the state file. -/
def stateFile : String := ".comment-to-issue.json"

/-- The path of the state file. -/
def statePath (s : StateStore) : String :=
  String.ofList (Path.join s.dir.toList stateFile.toList)

/-- The path of the temporary file. -/
def temporaryPath (s : StateStore) : String :=
  String.ofList (Path.join s.dir.toList (stateFile ++ ".tmp").toList)

/-- The path of the lock file. -/
def lockPath (s : StateStore) : String :=
  String.ofList (Path.join s.dir.toList (stateFile ++ ".lock").toList)

/-- The steps of a save, in their order. -/
def saveSteps : List SaveStep :=
  [.createDirectory, .openLock, .acquireLock, .openTemporary, .writeTemporary, .syncTemporary,
    .renameTemporary, .releaseLock]

/-- What a step of saving a text does to the tree of files. A single writer finds the lock free. -/
def runStep (s : StateStore) (text : String) (t : FileTree) :
    SaveStep → Except OsError FileTree
  | .createDirectory => t.createDirectories s.dir.toList
  | .openLock => t.writeText s.lockPath.toList ""
  | .acquireLock => .ok t
  | .openTemporary => t.writeText s.temporaryPath.toList ""
  | .writeTemporary => t.writeText s.temporaryPath.toList text
  | .syncTemporary => .ok t
  | .renameTemporary => t.rename s.temporaryPath.toList s.statePath.toList
  | .releaseLock => .ok t

/-- Runs steps up to the first one that fails. -/
def runSteps (s : StateStore) (text : String) (t : FileTree) :
    List SaveStep → FileTree × Option OsError
  | [] => (t, none)
  | step :: steps =>
    match s.runStep text t step with
    | .ok t => s.runSteps text t steps
    | .error e => (t, some e)

/-- Saves a list of records. -/
def save (s : StateStore) (t : FileTree) (records : List CommentRecord) :
    FileTree × Except Error Unit :=
  match s.runSteps (StateText.write records) t saveSteps with
  | (t, none) => (t, .ok ())
  | (t, some e) => (t, .error (.stateSave s.statePath e.message))

/-- The saved records. A file that is missing or corrupt holds none. -/
def load (s : StateStore) (t : FileTree) : List CommentRecord :=
  match t.readText s.statePath.toList with
  | .ok text => (StateText.read? text).getD []
  | .error _ => []

/-- The list in which a record is linked to an issue: the records with its identity take the number
and the first of them takes its text; if there is none, the record is added at the end. -/
def linkRecord (records : List CommentRecord) (record : CommentRecord) (number : UInt64) :
    List CommentRecord :=
  if records.any (·.isAt record.file record.line) then
    modifyFirst record.file record.line (fun r => { r with text := record.text })
      (linkIssue records record.file record.line number)
  else records ++ [record.withIssue number]

/-- Links a record to an issue in the saved list, and gives the list that has been saved. -/
def recordIssue (s : StateStore) (t : FileTree) (record : CommentRecord) (number : UInt64) :
    FileTree × Except Error (List CommentRecord) :=
  let updated := linkRecord (s.load t) record number
  match s.save t updated with
  | (t, .ok ()) => (t, .ok updated)
  | (t, .error e) => (t, .error e)

end StateStore

end TrackedComments

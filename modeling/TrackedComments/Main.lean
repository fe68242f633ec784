import TrackedComments.CommandLine.Run
import TrackedComments.Tracker.Repository

/-!
# The program

Reads the files that a command may need into a tree, runs the command and makes the changes of the
tree on the disk.
-/

namespace TrackedComments

/-- A path as text for a location. -/
def Location.path (loc : Location) : String := "/" ++ "/".intercalate loc

/-- Directories of a repository whose files say nothing about a workspace. -/
def isStorage (loc : Location) : Bool :=
  [".git", "objects"].isSuffixOf loc

/-- Adds a file of the disk to a tree, if it can be read. -/
def readFile (t : FileTree) (loc : Location) : IO FileTree := do
  match ← (IO.FS.readBinFile (Location.path loc)).toBaseIO with
  | .ok content => return t.set loc (.file content)
  | .error _ => return t

/-- Adds what is below a directory of the disk to a tree. -/
partial def readDirectory (t : FileTree) (dir : IO.FS.DirEntry) (loc : Location) :
    IO FileTree := do
  let mut t := t.set loc .directory
  match ← dir.path.readDir.toBaseIO with
  | .error _ => return t
  | .ok entries =>
    for entry in entries do
      let inner := loc ++ [entry.fileName]
      match ← entry.path.symlinkMetadata.toBaseIO with
      | .error _ => continue
      | .ok metadata =>
        if metadata.type == .file then t ← readFile t inner
        else if metadata.type == .dir && !isStorage inner then t ← readDirectory t entry inner
    return t

/-- The directory with a name as an entry of the one above it. -/
def entryOf (loc : Location) : IO.FS.DirEntry :=
  { root := Location.path loc.dropLast, fileName := loc.getLast?.getD "" }

/-- Adds the files of the directories above a location that have a say in what is below it. -/
def readAbove (t : FileTree) (loc : Location) : IO FileTree := do
  let mut t := t
  for dir in (ancestors loc).reverse do
    unless dir.isEmpty do
      if ← (entryOf dir).path.isDir then t := t.set dir .directory
      else t ← readFile t dir
    for name in [".ignore", ".gitignore"] do
      t ← readFile t (dir ++ [name])
    let repository := dir ++ [".git"]
    if ← (entryOf repository).path.isDir then
      t := (t.set repository .directory).set (repository ++ ["info"]) .directory
      for name in ["HEAD", "packed-refs"] do
        t ← readFile t (repository ++ [name])
      t ← readFile t (repository ++ ["info", "exclude"])
      t ← readDirectory t (entryOf (repository ++ ["refs"])) (repository ++ ["refs"])
  return t

/-- The tree of the files that a run in a directory may need. -/
def readTree (loc : Location) : IO FileTree := do
  let t ← readAbove .empty loc
  if ← (entryOf loc).path.isDir then readDirectory t (entryOf loc) loc
  else readFile t loc

/-- Makes the changes from one tree to another on the disk. -/
def writeChanges (before after : FileTree) : IO Unit := do
  for (loc, node) in after.entries do
    if before.get? loc != some node then
      match node with
      | .directory => IO.FS.createDirAll (Location.path loc)
      | .file content => IO.FS.writeBinFile (Location.path loc) content
  for (loc, _) in before.entries do
    if (after.get? loc).isNone then IO.FS.removeFile (Location.path loc)

/-- Whether the output is set off by colours, which the environment may force or forbid. -/
def wantsColors (forced forbidden allowed : Option String) (isTerminal : Bool) : Bool :=
  if forced.any (· != "0") then true
  else if forbidden.isSome then false
  else allowed.all (· != "0") && isTerminal

/-- The location of a path on the disk, and the names of a path that leads nowhere. -/
def locationOf (directory path : String) : IO Location := do
  let joined := String.ofList (Path.join directory.toList path.toList)
  let resolved ← (IO.FS.realPath joined).toBaseIO
  let text := match resolved with
    | .ok real => real.toString
    | .error _ => joined
  return (Path.names text.toList).map String.ofList

/-- Prints an outcome and gives its exit code. -/
def report (colored : Bool) (o : CommandLine.Outcome) : IO UInt32 := do
  (← IO.getStdout).putStr o.output
  (← IO.getStderr).putStr (String.join (o.notices.map (·.text colored Error.message)))
  return .ofNat o.exitCode

/-- Runs the program. -/
def runProgram (arguments : List String) : IO UInt32 := do
  let colored := wantsColors (← IO.getEnv "CLICOLOR_FORCE") (← IO.getEnv "NO_COLOR")
    (← IO.getEnv "CLICOLOR") (← (← IO.getStdout).isTty)
  match CommandLine.Invocation.ofArguments arguments with
  | .error stop => report colored (.ofStop stop)
  | .ok invocation =>
    let directory := (← IO.currentDir).toString
    let loc ← locationOf directory invocation.project
    let tree ← readTree loc
    let env : CommandLine.Environment :=
      { directory, colored
        token := ← IO.getEnv "GITHUB_TOKEN"
        references := .ofTree tree loc }
    let invocation :=
      if (tree.get? loc).isSome then { invocation with project := Location.path loc }
      else invocation
    let (outcome, _, changed) := invocation.run env NoNetwork.noNetwork tree
    writeChanges tree changed
    report colored outcome

end TrackedComments

/-- Runs the program with the arguments of its command line. -/
def main (arguments : List String) : IO UInt32 :=
  TrackedComments.runProgram arguments

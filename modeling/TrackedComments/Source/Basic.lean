import TrackedComments.FileTree.Text
import TrackedComments.Source.Filter
import TrackedComments.Source.Ignore

/-!
# File sources

A scan does not look at files itself. It asks a source for the files that pass a filter and for the
text of each. A source stands for a directory of a file tree, or for a list of files in memory.

A source that stands for a directory lists the files below it, with or without those that the
ignore rules leave out; nothing below an entry named `.git` is listed. A file with a zero byte
near its start is taken for a binary one and has no text.
-/

namespace TrackedComments

/-- Why a source has no list of files or no text of a file. -/
inductive SourceFault where
  | rootNotDirectory (path : String)
  | unreadable (path : String)
  | binary (path : String)
  | notText (path : String)
  /-- Any other reason, in words. -/
  | described (reason : String)
  deriving DecidableEq, Repr, Inhabited

/-- The fault in words. -/
def SourceFault.message : SourceFault → String
  | rootNotDirectory path => "workspace root is not a directory: " ++ path
  | unreadable path => "Failed to read file: " ++ path
  | binary path => "binary file skipped: " ++ path
  | notText path => "not valid UTF-8: " ++ path
  | described reason => reason

/-- Where a scan gets its files from. -/
structure FileSource where
  list : FileFilter → Except SourceFault (List String)
  read : String → Except SourceFault String
  deriving Inhabited

/-- Sorts texts in the order of code points. -/
def sortTexts (texts : List String) : List String :=
  texts.mergeSort fun a b => a ≤ b

/-- How many bytes are looked at for a zero byte. -/
def sniffLength : Nat := 8192

namespace FileTree

/-- Whether an entry below a root is visited: it and all directories that lead to it are neither
named `.git` nor left out by the rules. -/
def isVisited (rules : List RulesByDirectory) (root names : Location) : Bool :=
  (List.range names.length).all fun n =>
    names[n]? != some ".git" &&
      !isIgnored rules (root ++ names.take (n + 1)) (n + 1 < names.length)

/-- Whether a root is passed over because of its path. With regard to ignore rules the path `-`
stands for the standard input, which has no files below it; without it, a root named `.git` is
passed over as any other entry of that name. -/
def passesOver (root : String) (respectIgnore : Bool) : Bool :=
  if respectIgnore then Path.components root.toList == Path.components ['-']
  else Path.fileName? root.toList == some ".git".toList

/-- The rules that leave files out of a listing. -/
def rulesFor (t : FileTree) (respectIgnore : Bool) : List RulesByDirectory :=
  if respectIgnore then t.allIgnoreRules else []

/-- The paths of the files that are visited below a root, whose path leads to a location. -/
def visitedFiles (t : FileTree) (root : String) (loc : Location) (respectIgnore : Bool) :
    List String :=
  if passesOver root respectIgnore then []
  else
    ((t.filesBelow loc).filter fun (names, _) =>
      isVisited (t.rulesFor respectIgnore) loc names).map fun (names, _) => "/".intercalate names

/-- The files below a root that pass a filter, in order. -/
def listFiles (t : FileTree) (root : String) (respectIgnore : Bool) (filter : FileFilter) :
    Except SourceFault (List String) :=
  match t.find root.toList with
  | .ok (loc, .directory) =>
    .ok (sortTexts ((t.visitedFiles root loc respectIgnore).filter filter.accepts))
  | _ => .error (.rootNotDirectory root)

/-- The path of a file below a root, as text. -/
def pathBelow (root file : String) : String :=
  String.ofList (Path.join root.toList file.toList)

/-- The text of a source file below a root. -/
def readSource (t : FileTree) (root file : String) : Except SourceFault String :=
  let path := pathBelow root file
  match t.read path.toList with
  | .error _ => .error (.unreadable path)
  | .ok content =>
    if (content.toList.take sniffLength).contains 0 then .error (.binary path)
    else match String.fromUTF8? content with
      | none => .error (.notText path)
      | some text => .ok text

end FileTree

/-- The source that stands for a directory of a tree. -/
def FileSource.ofTree (t : FileTree) (root : String) (respectIgnore : Bool) : FileSource :=
  { list := t.listFiles root respectIgnore
    read := t.readSource root }

/-- The source of files in memory. Files that are unreadable are listed, but have no text. -/
def FileSource.ofFiles (files : List (String × String)) (unreadable : List String)
    (listFault : Option String) : FileSource :=
  { list := fun filter =>
      match listFault with
      | some reason => .error (.described reason)
      | none =>
        .ok ((sortTexts (files.map Prod.fst ++ unreadable).eraseDups).filter filter.accepts)
    read := fun file =>
      if unreadable.contains file then .error (.described ("permission denied: " ++ file))
      else match files.lookup file with
        | none => .error (.described ("file not found: " ++ file))
        | some text => .ok text }

end TrackedComments

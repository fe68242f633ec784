import TrackedComments.Error
import TrackedComments.FileTree.Text
import TrackedComments.Text.Lines

/-!
# Writing markers back

The marker of an issue is put at the end of the line of the comment, before its line ending. All
other lines stay as they are, byte for byte. A line that holds the beginning of a marker is left
alone. The new content is written to a temporary file beside the source file, which is then moved
over it.
-/

namespace TrackedComments

/-- What became of the line. -/
inductive WriteBackOutcome where
  /-- The marker has been added; the line reads so now, without the blanks at its ends. -/
  | inserted (text : String)
  /-- The line was marked already, and nothing has been written. -/
  | alreadyMarked
  deriving DecidableEq, Repr, Inhabited

/-- Why a marker could not be written or a line not be read. -/
inductive WriteBackFault where
  | unreadable (fault : ReadFault)
  /-- The file ends before the line, or the line number is zero. -/
  | noSuchLine (count : Nat)
  /-- The line does not read as expected. -/
  | changedLine
  | unwritable (error : OsError)
  deriving DecidableEq, Repr, Inhabited

namespace WriteBackFault

/-- The fault in words. -/
def message : WriteBackFault → String
  | unreadable fault => fault.message
  | noSuchLine count => "file has " ++ toString count ++ " lines"
  | changedLine => "line changed since the last scan"
  | unwritable error => error.message

/-- The failure of a write-back at a line. -/
def toError (fault : WriteBackFault) (file : String) (line : UInt32) : Error :=
  .writeBack file line fault.message

end WriteBackFault

namespace WriteBack

/-- The line with a number, counted from 1. -/
def lineAt (lines : List Line) (line : UInt32) : Except WriteBackFault Line :=
  match line.toNat with
  | 0 => .error (.noSuchLine lines.length)
  | index + 1 =>
    match lines[index]? with
    | some l => .ok l
    | none => .error (.noSuchLine lines.length)

/-- A line with a marker at its end. -/
def mark (l : Line) (number : UInt64) : Line :=
  { l with body := l.body ++ ' ' :: Marker.format number }

/-- The new content, if there is one, and what became of the line. -/
def insertInto (content : List Char) (line : UInt32) (number : UInt64)
    (expected : Option (List Char)) :
    Except WriteBackFault (Option (List Char) × WriteBackOutcome) := do
  let all := lines content
  let l ← lineAt all line
  if expected.any (· != Chars.trim l.body) then .error .changedLine
  else if Marker.isOpenedIn l.body then .ok (none, .alreadyMarked)
  else
    let marked := mark l number
    .ok (some ((all.set (line.toNat - 1) marked).flatMap Line.toChars),
      .inserted (String.ofList (Chars.trim marked.body)))

/-- The name of the temporary file for a file. -/
def temporaryName (name : List Char) : List Char :=
  '.' :: name ++ ['.', 'c', '2', 'i', '.', 't', 'm', 'p']

/-- The path of the temporary file beside a file. -/
def temporaryPath (path : List Char) : List Char :=
  Path.withFileName path (temporaryName ((Path.fileName? path).getD []))

/-- Replaces the content of a file by way of a temporary file, as far as the tree of files decides
it: the temporary file may be impossible to write, and then nothing changes. That the system breaks
a replacement off for other reasons is no part of this function. -/
def replace (t : FileTree) (path : List Char) (content : String) :
    FileTree × Except OsError Unit :=
  let temporary := temporaryPath path
  match t.writeText temporary content with
  | .error e => (t, .error e)
  | .ok t =>
    match t.rename temporary path with
    | .error e => (t, .error e)
    | .ok t => (t, .ok ())

/-- Adds a marker to a line of a file below a root. With an expected text, the line without the
blanks at its ends has to be that text. -/
def insert (t : FileTree) (root file : String) (line : UInt32) (number : UInt64)
    (expected : Option String) : FileTree × Except WriteBackFault WriteBackOutcome :=
  let path := Path.join root.toList file.toList
  match t.readText path with
  | .error fault => (t, .error (.unreadable fault))
  | .ok content =>
    match insertInto content.toList line number (expected.map String.toList) with
    | .error fault => (t, .error fault)
    | .ok (none, outcome) => (t, .ok outcome)
    | .ok (some updated, outcome) =>
      match replace t path (String.ofList updated) with
      | (t, .error e) => (t, .error (.unwritable e))
      | (t, .ok ()) => (t, .ok outcome)

/-- A line of a file below a root, without the blanks at its ends. -/
def readLine (t : FileTree) (root file : String) (line : UInt32) :
    Except WriteBackFault String :=
  match t.readText (Path.join root.toList file.toList) with
  | .error fault => .error (.unreadable fault)
  | .ok content =>
    match lineAt (lines content.toList) line with
    | .error fault => .error fault
    | .ok l => .ok (String.ofList (Chars.trim l.body))

end WriteBack

end TrackedComments

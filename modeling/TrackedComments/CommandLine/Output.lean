import TrackedComments.CommandLine.Arguments
import TrackedComments.CommandLine.Highlight
import TrackedComments.Workspace

/-!
# Output

What the program prints: results on one stream, and notices of failures, warnings and hints on the
other.
-/

namespace TrackedComments.CommandLine

/-- The name of the program. -/
def programName : String := "comment-to-issue"

/-- The version of the program. -/
def programVersion : String := "0.1.0"

/-- The version as it is printed at a level. -/
def LevelName.version (l : LevelName) : String :=
  "-".intercalate (programName :: l.words) ++ " " ++ programVersion ++ "\n"

/-- The options of a level as they are listed. -/
def Spelling.describe (s : Spelling) : String :=
  s.short.elim "    " (fun letter => "-" ++ letter.toString ++ ", ") ++ "--" ++ s.long ++
    match s.choice with
    | .switch _ => ""
    | .setting _ => " <VALUE>"

/-- A list of lines under a title, unless there are none. -/
def listing (title : String) (lines : List String) : String :=
  if lines.isEmpty then ""
  else "\n" ++ title ++ ":\n" ++ String.join (lines.map fun line => "  " ++ line ++ "\n")

/-- The help that is printed at a level. -/
def LevelName.help (l : LevelName) : String :=
  let operands :=
    if l.isGroup then " <COMMAND>" else if l.takesPlace then " <FILE> <LINE>" else ""
  let commands := l.below.filterMap fun inner => inner.words.getLast?
  "Usage: " ++ " ".intercalate (programName :: l.words) ++ " [OPTIONS]" ++ operands ++ "\n" ++
    listing "Commands" commands ++ listing "Options" (l.options.map Spelling.describe)

/-! ### Results -/

/-- The line of a comment in a printed tree. -/
def commentLine (colored : Bool) (r : CommentRecord) : String :=
  let issue :=
    if r.issueNumber.isSome then " " ++ Highlight.issueOfComment.apply colored r.description else ""
  "  " ++ r.label ++ issue ++ "\n"

/-- The line of a file in a printed tree. -/
def fileLine (colored : Bool) (n : FileNode) : String :=
  let directory :=
    if n.directory.isEmpty then "" else "  " ++ Highlight.directory.apply colored n.directory
  Highlight.fileName.apply colored n.label ++ directory ++ "\n"

/-- A comment tree as it is printed. -/
def treeText (colored : Bool) (t : CommentTree) : String :=
  String.join <| t.fileNodes.map fun n =>
    fileLine colored n ++ String.join ((t.commentsOf n.path).map (commentLine colored))

/-- The summary of a scan. -/
def summaryText (colored : Bool) (r : ScanReport) : String :=
  let linked := r.records.countP (·.issueNumber.isSome)
  let failed :=
    if r.failedFiles.isEmpty then ""
    else
      "   " ++ Highlight.warning.apply colored "Warning:" ++ " " ++ toString r.failedFiles.length ++
        " files could not be read: " ++ ", ".intercalate r.failedFiles ++ "\n"
  "\n" ++ Highlight.success.apply colored "OK" ++ " Scanned " ++ toString r.filesScanned ++
    " files: " ++ toString r.records.length ++ " comments, " ++ toString linked ++ " linked\n" ++
    failed

/-- Records as they are printed for programs. -/
def recordsText (records : List CommentRecord) : String :=
  StateText.write records ++ "\n"

/-- What is printed where nothing has been saved. -/
def noCommentsText (colored : Bool) : String :=
  Highlight.information.apply colored "Info:" ++ " No saved comments. Run " ++
    Highlight.suggestion.apply colored (programName ++ " scan") ++ " first.\n"

/-- What is printed about the marker of a new issue. -/
def markerText (colored : Bool) (number : UInt64) : MarkerWrite → String
  | .written (.inserted _) =>
    "   Marker " ++ Highlight.newMarker.apply colored (String.ofList (Marker.format number)) ++
      " added to the source line\n"
  | .written .alreadyMarked => "   Source line already carries a marker; left unchanged\n"
  | .failed e =>
    "   " ++ Highlight.warning.apply colored "Warning:" ++ " Marker not written: " ++ e.message ++
      "\n"

/-- What is printed about a new issue. -/
def createdText (colored : Bool) (file : String) (line : UInt32) (created : CreatedIssue) :
    String :=
  Highlight.success.apply colored "OK" ++ " Created issue #" ++
    toString created.info.number.toNat ++ " for " ++ Error.place file line ++ "\n   " ++
    Highlight.address.apply colored created.info.htmlUrl ++ "\n" ++
    markerText colored created.info.number created.marker

/-- A configuration as it is printed, with the place that it comes from. -/
def configText (colored : Bool) (origin : String) (c : Config) : String :=
  Highlight.remark.apply colored "# Source:" ++ " " ++ Highlight.remark.apply colored origin ++
    "\n" ++ c.write

/-- What is printed about a new configuration file. -/
def writtenText (colored : Bool) (path : String) : String :=
  Highlight.success.apply colored "OK" ++ " Wrote " ++ path ++ "\n"

/-! ### Notices -/

/-- A notice to the user. -/
inductive Notice where
  /-- The arguments cannot be understood. -/
  | usage
  /-- The path of the workspace leads nowhere. -/
  | noProject (path : String) (reason : OsError)
  | failure (e : Error)
  | warning (e : Error)
  /-- What can be done about a failure. -/
  | hint (text : String)
  deriving DecidableEq, Repr, Inhabited

/-- What the user can do about a failure, if anything. -/
def hint? (e : Error) : Option String :=
  match e with
  | .staleComment .. => some "Run `comment-to-issue scan` and try again"
  | .tracker (.notConfigured _) | .tracker (.authentication _) =>
    some ("Pass --token or set GITHUB_TOKEN, and set [github] owner and repo " ++
      "in .comment-to-issue.toml")
  | _ =>
    if e.requiresReconfigure then
      some "Fix .comment-to-issue.toml, or run `comment-to-issue config init --force`"
    else if e.isRecoverable then some "This may succeed if retried"
    else none

/-- The notices about a failure. -/
def failureNotices (e : Error) : List Notice :=
  .failure e :: ((hint? e).map Notice.hint).toList

/-- A notice as it is printed, with failures described in a given way. -/
def Notice.text (colored : Bool) (describe : Error → String) : Notice → String
  | usage => "Usage: " ++ programName ++ " [OPTIONS] <COMMAND>\n"
  | noProject path reason =>
    "Error: Project directory does not exist: " ++ path ++ "\n\nCaused by:\n    " ++
      reason.message ++ "\n"
  | failure e => Highlight.failure.apply colored "Error:" ++ " " ++ describe e ++ "\n"
  | warning e => Highlight.warning.apply colored "Warning:" ++ " " ++ describe e ++ "\n"
  | hint text => Highlight.information.apply colored "Hint:" ++ " " ++ text ++ "\n"

/-- What a run of the program comes to. -/
structure Outcome where
  /-- The results. -/
  output : String := ""
  notices : List Notice := []
  exitCode : Nat := 0
  deriving DecidableEq, Repr, Inhabited

/-- The outcome of a failure. -/
def Outcome.ofError (e : Error) : Outcome :=
  { notices := failureNotices e, exitCode := e.exitCode }

/-- The outcome of arguments that run no command. -/
def Outcome.ofStop : Stop → Outcome
  | .usage => { notices := [.usage], exitCode := 2 }
  | .help l => { output := l.help }
  | .version l => { output := l.version }

end TrackedComments.CommandLine

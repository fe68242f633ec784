import TrackedComments.CommandLine.Output
import TrackedComments.Tracker.GitHub

/-!
# Running commands

A command works on the tree of files and on the transport of the tracker, and comes to an outcome:
what is printed, and the exit code.
-/

namespace TrackedComments.CommandLine

/-- What a run depends on besides the arguments and the files. -/
structure Environment where
  /-- The working directory, which relative paths start from. -/
  directory : String
  /-- The token that counts if no other one is given. -/
  token : Option String := none
  /-- What the repository of the workspace says. -/
  references : References := ⟨none, none⟩
  /-- Whether parts of the output are set off. -/
  colored : Bool := false
  deriving DecidableEq, Repr, Inhabited

/-- Drops every `./` that a path begins with. -/
def dropCurrent : List Char → List Char
  | '.' :: '/' :: rest => dropCurrent rest
  | cs => cs

/-- The identity of the file that an operand names: backslashes separate names as well, and `./` in
front says nothing. -/
def normalizeFile (file : String) : String :=
  String.ofList (dropCurrent (file.toList.map fun c => if c = '\\' then '/' else c))

/-- The tracker that a configuration describes. A blank token is none. -/
def trackerOf {σ : Type} (config : Config) (token : Option String) (references : References)
    (transport : σ) : GitHubTracker σ :=
  { settings := config.gitHubSettings (token.filter fun text => !isBlank text)
    references
    transport }

/-! ### Commands -/

/-- Scans a workspace and prints what has been found. -/
def runScan (colored json : Bool) (t : FileTree) (project : String) :
    Except Error String × FileTree :=
  match Workspace.load t project with
  | .error e => (.error e, t)
  | .ok w =>
    match w.scan t (w.source t) with
    | (.error e, _, t) => (.error e, t)
    | (.ok report, w, t) =>
      (.ok (if json then recordsText report.records
        else treeText colored w.tree ++ summaryText colored report), t)

/-- Prints what has been saved. -/
def runList (colored json : Bool) (t : FileTree) (project : String) : Except Error String := do
  let w ← Workspace.load t project
  let tree := (w.loadPersisted t).tree
  if json then .ok (recordsText tree.comments)
  else if tree.comments.isEmpty then .ok (noCommentsText colored)
  else .ok (treeText colored tree)

/-- A workspace that knows the comment at a line of a file if there is one: the files are scanned
unless the saved records tell of it. -/
def findOrScan (w : Workspace) (t : FileTree) (file : String) (line : UInt32) :
    Except Error Workspace × FileTree :=
  let w := w.loadPersisted t
  if (w.find? t file line).isSome then (.ok w, t)
  else
    match w.scan t (w.source t) with
    | (.error e, _, t) => (.error e, t)
    | (.ok _, w, t) => (.ok w, t)

/-- Creates an issue and prints what has become of it. -/
def runCreateIssue {τ : Type} [IssueTracker τ] (colored force : Bool) (w : Workspace)
    (t : FileTree) (tracker : τ) (file : String) (line : UInt32) :
    Except Error String × τ × FileTree :=
  match findOrScan w t file line with
  | (.error e, t) => (.error e, tracker, t)
  | (.ok w, t) =>
    match w.createIssue t tracker file line force with
    | (.error e, _, tracker, t) => (.error e, tracker, t)
    | (.ok created, _, tracker, t) => (.ok (createdText colored file line created), tracker, t)

/-- Prints an address. -/
def addressText (address : Except TrackerError String) : Except Error String :=
  match address with
  | .error e => .error (.tracker e)
  | .ok url => .ok (url ++ "\n")

/-- The notices about a configuration that is shown. -/
def configNotices (c : Config) : List Notice :=
  match c.validate with
  | .error e => [.warning e]
  | .ok () => []

/-- Prints the configuration, and warns of settings that must not be so. -/
def runShowConfig (colored json : Bool) (t : FileTree) (project : String) :
    Except Error (String × List Notice) := do
  let config ← Config.load t project
  let path := Config.path project
  let origin := if t.pathExists path.toList then path else "defaults"
  let text := if json then config.toJson.pretty ++ "\n" else configText colored origin config
  .ok (text, configNotices config)

/-- The outcome of a command that prints a text or fails. -/
def Outcome.ofResult (result : Except Error String) : Outcome :=
  match result with
  | .error e => .ofError e
  | .ok output => { output }

/-- Runs a command in the workspace with a path. -/
def Command.run {σ : Type} [Transport σ] (command : Command) (env : Environment)
    (token : Option String) (transport : σ) (t : FileTree) (project : String) :
    Outcome × σ × FileTree :=
  let colored := env.colored
  let references := if t.isDirectory project.toList then env.references else ⟨none, none⟩
  let tracker (config : Config) : GitHubTracker σ := trackerOf config token references transport
  match command with
  | .scan json =>
    let (result, t) := runScan colored json t project
    (.ofResult result, transport, t)
  | .list json => (.ofResult (runList colored json t project), transport, t)
  | .createIssue file line force =>
    match Workspace.load t project with
    | .error e => (.ofError e, transport, t)
    | .ok w =>
      let (result, tracker, t) :=
        runCreateIssue colored force w t (tracker w.config) (normalizeFile file) line
      (.ofResult result, tracker.transport, t)
  | .openLink file line =>
    let result := (Config.load t project).bind fun config =>
      addressText (IssueTracker.remoteUrl (tracker config) (normalizeFile file) line)
    (.ofResult result, transport, t)
  | .permalink file line =>
    let result := (Config.load t project).bind fun config =>
      addressText (IssueTracker.permalink (tracker config) (normalizeFile file) line)
    (.ofResult result, transport, t)
  | .showConfig json =>
    match runShowConfig colored json t project with
    | .error e => (.ofError e, transport, t)
    | .ok (output, notices) => ({ output, notices }, transport, t)
  | .writeConfig force =>
    let (t, result) := Config.writeDefault t project force
    (.ofResult (result.map (writtenText colored)), transport, t)

/-- Runs a command in the workspace that its path leads to from the working directory. -/
def Invocation.run {σ : Type} [Transport σ] (i : Invocation) (env : Environment) (transport : σ)
    (t : FileTree) : Outcome × σ × FileTree :=
  match t.find (Path.join env.directory.toList i.project.toList) with
  | .error reason =>
    ({ notices := [.noProject i.project reason], exitCode := 1 }, transport, t)
  | .ok (loc, _) =>
    i.command.run env (i.token.or env.token) transport t ("/" ++ "/".intercalate loc)

/-- Runs the program with arguments. -/
def run {σ : Type} [Transport σ] (arguments : List String) (env : Environment) (transport : σ)
    (t : FileTree) : Outcome × σ × FileTree :=
  match Invocation.ofArguments arguments with
  | .error stop => (.ofStop stop, transport, t)
  | .ok i => i.run env transport t

end TrackedComments.CommandLine

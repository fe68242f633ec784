import TrackedComments.Text.Split

/-!
# Arguments

The grammar of the command line. Commands are nested: below the program stand commands such as
`scan`, and below `config` stand two more. Each command is a level with options and operands of its
own. The general options may be given at every level, and the innermost one counts; at one level an
option is given at most once.

Arguments are read from left to right. The first one that asks for help or for the version, or that
cannot be understood, decides.
-/

namespace TrackedComments.CommandLine

/-! ### Grammar -/

/-- A level of the command line. -/
inductive LevelName where
  | program
  | scan
  | list
  | createIssue
  | openLink
  | permalink
  | config
  | configShow
  | configInit
  deriving DecidableEq, Repr, Inhabited

/-- An option without a value. -/
inductive Switch where
  | verbose
  | logJson
  | json
  | force
  | help
  | version
  deriving DecidableEq, Repr, Inhabited

/-- An option with a value. -/
inductive Setting where
  | project
  | token
  deriving DecidableEq, Repr, Inhabited

/-- An option. -/
inductive Choice where
  | switch (s : Switch)
  | setting (s : Setting)
  deriving DecidableEq, Repr, Inhabited

/-- How an option is written. -/
structure Spelling where
  choice : Choice
  /-- The name after two hyphens. -/
  long : String
  /-- The letter after one hyphen. -/
  short : Option Char := none
  deriving DecidableEq, Repr, Inhabited

/-- The options of every level. -/
def generalOptions : List Spelling :=
  [⟨.setting .project, "project", some 'p'⟩, ⟨.switch .verbose, "verbose", some 'v'⟩,
    ⟨.switch .logJson, "log-json", none⟩, ⟨.setting .token, "token", none⟩,
    ⟨.switch .help, "help", some 'h'⟩, ⟨.switch .version, "version", some 'V'⟩]

namespace LevelName

/-- The words that lead from the program to a level. -/
def words : LevelName → List String
  | program => []
  | scan => ["scan"]
  | list => ["list"]
  | createIssue => ["create-issue"]
  | openLink => ["open"]
  | permalink => ["permalink"]
  | config => ["config"]
  | configShow => ["config", "show"]
  | configInit => ["config", "init"]

/-- The levels directly below a level. -/
def below : LevelName → List LevelName
  | program => [scan, list, createIssue, openLink, permalink, config]
  | config => [configShow, configInit]
  | _ => []

/-- The level below another one that a word names. -/
def below? (l : LevelName) (word : String) : Option LevelName :=
  l.below.find? fun inner => inner.words.getLast? == some word

/-- Whether a level is complete only together with one below it. -/
def isGroup (l : LevelName) : Bool := !l.below.isEmpty

/-- Whether a level takes a file and a line. -/
def takesPlace : LevelName → Bool
  | createIssue | openLink | permalink => true
  | _ => false

/-- The options of a level. -/
def options : LevelName → List Spelling
  | scan | list | configShow => ⟨.switch .json, "json", none⟩ :: generalOptions
  | createIssue | configInit => ⟨.switch .force, "force", some 'f'⟩ :: generalOptions
  | _ => generalOptions

/-- The option with a name. -/
def long? (l : LevelName) (name : String) : Option Choice :=
  (l.options.find? (·.long == name)).map Spelling.choice

/-- The option with a letter. -/
def short? (l : LevelName) (letter : Char) : Option Choice :=
  (l.options.find? (·.short == some letter)).map Spelling.choice

end LevelName

/-! ### Reading -/

/-- Why no command is run. -/
inductive Stop where
  /-- The arguments cannot be understood. -/
  | usage
  /-- They ask for help on a level. -/
  | help (l : LevelName)
  /-- They ask for the version at a level. -/
  | version (l : LevelName)
  deriving DecidableEq, Repr, Inhabited

/-- The line number that a text gives, with or without a sign. -/
def readLine? (text : String) : Option UInt32 :=
  let digits (cs : List Char) : Option Nat :=
    if !cs.isEmpty && cs.all Char.isDigit then some (Nat.ofDigitChars 10 cs 0) else none
  let number : Option Nat :=
    match text.toList with
    | '+' :: cs => digits cs
    | '-' :: cs => (digits cs).filter (· == 0)
    | cs => digits cs
  number.bind fun n => if n < UInt32.size then some (.ofNat n) else none

/-- What has been read at a level. -/
structure Level where
  name : LevelName
  switches : List Switch := []
  settings : List (Setting × String) := []
  file : Option String := none
  line : Option UInt32 := none
  deriving DecidableEq, Repr, Inhabited

namespace Level

/-- Whether a switch has been given. -/
def has (l : Level) (s : Switch) : Bool := l.switches.contains s

/-- Takes a switch. -/
def addSwitch (l : Level) : Switch → Except Stop Level
  | .help => .error (.help l.name)
  | .version => .error (.version l.name)
  | s => if l.has s then .error .usage else .ok { l with switches := s :: l.switches }

/-- Takes a value. The project must have a name. -/
def addSetting (l : Level) (s : Setting) (value : String) : Except Stop Level :=
  if (l.settings.lookup s).isSome || (s = .project && value.isEmpty) then .error .usage
  else .ok { l with settings := (s, value) :: l.settings }

/-- Takes an operand: first the file, then the line. -/
def addOperand (l : Level) (text : String) : Except Stop Level :=
  match l.name.takesPlace, l.file, l.line with
  | true, none, _ => .ok { l with file := some text }
  | true, some _, none =>
    match readLine? text with
    | some line => .ok { l with line := some line }
    | none => .error .usage
  | _, _, _ => .error .usage

/-- Whether everything has been given that the level needs. -/
def isComplete (l : Level) : Bool :=
  !l.name.isGroup && (!l.name.takesPlace || (l.file.isSome && l.line.isSome))

end Level

/-- What the next argument is taken for. -/
inductive Expectation where
  /-- An option, a command or an operand. -/
  | anything
  /-- The value of an option. -/
  | valueOf (s : Setting)
  /-- A command. The value before it is refused, but help on the command is given first. -/
  | command
  /-- An operand, even if it begins with a hyphen. -/
  | operand
  deriving DecidableEq, Repr, Inhabited

namespace Level

/-- Reads an option that follows two hyphens, with its value after `=` if it has one there. -/
def readLong (l : Level) (text : List Char) : Except Stop (Level × Expectation) :=
  let (name, value) : List Char × Option (List Char) :=
    match Chars.splitOnce '=' text with
    | some (name, value) => (name, some value)
    | none => (text, none)
  match l.name.long? (String.ofList name), value with
  | some (.switch s), none => (l.addSwitch s).map (·, .anything)
  | some (.setting s), none => .ok (l, .valueOf s)
  | some (.setting s), some value => (l.addSetting s (String.ofList value)).map (·, .anything)
  | some (.switch _), some _ => .error .usage
  | none, _ => .error .usage

/-- Reads the letters that follow a hyphen. What follows the letter of an option with a value is
the value, with or without `=` before it. -/
def readShort (l : Level) : List Char → Except Stop (Level × Expectation)
  | [] => .ok (l, .anything)
  | letter :: text =>
    match l.name.short? letter with
    | none => .error .usage
    | some (.switch s) =>
      match l.addSwitch s with
      | .error stop => .error stop
      | .ok l => l.readShort text
    | some (.setting s) =>
      match text with
      | [] => .ok (l, .valueOf s)
      | '=' :: value => (l.addSetting s (String.ofList value)).map (·, .anything)
      | value => (l.addSetting s (String.ofList value)).map (·, .anything)

/-- Reads an argument that is no command. -/
def readArgument (l : Level) (text : String) : Except Stop (Level × Expectation) :=
  match text.toList with
  | ['-', '-'] => .ok (l, .operand)
  | '-' :: '-' :: option => l.readLong option
  | '-' :: letter :: letters => l.readShort (letter :: letters)
  | _ => (l.addOperand text).map (·, .anything)

end Level

/-- Whether an argument begins like an option. A single hyphen does not. -/
def looksLikeOption (text : String) : Bool :=
  match text.toList with
  | '-' :: _ :: _ => true
  | _ => false

/-- Help on the level that words lead to. -/
def helpOn (l : LevelName) : List String → Stop
  | [] => .help l
  | word :: words =>
    match l.below? word with
    | some inner => helpOn inner words
    | none => if word = "help" && l.isGroup && words.isEmpty then .help l else .usage

/-- Reads arguments at a level, and gives the level with those below it. -/
def readLevels (l : Level) (expected : Expectation) : List String → Except Stop (List Level)
  | [] =>
    match expected with
    | .anything | .operand => if l.isComplete then .ok [l] else .error .usage
    | .valueOf _ | .command => .error .usage
  | text :: rest =>
    match expected with
    | .operand =>
      match l.addOperand text with
      | .error stop => .error stop
      | .ok l => readLevels l .operand rest
    | .valueOf s =>
      if looksLikeOption text then .error .usage
      else match l.addSetting s text with
        | .error _ => readLevels l .command rest
        | .ok l => readLevels l .anything rest
    | .anything | .command =>
      match l.name.below? text with
      | some inner =>
        match readLevels { name := inner } .anything rest with
        | .error stop => .error stop
        | .ok levels => if expected = .command then .error .usage else .ok (l :: levels)
      | none =>
        if text = "help" && l.name.isGroup then .error (helpOn l.name rest)
        else if expected = .command then .error .usage
        else match l.readArgument text with
          | .error stop => .error stop
          | .ok (l, expected) => readLevels l expected rest

/-! ### Commands -/

/-- What the program is asked to do. -/
inductive Command where
  | scan (json : Bool)
  | list (json : Bool)
  | createIssue (file : String) (line : UInt32) (force : Bool)
  | openLink (file : String) (line : UInt32)
  | permalink (file : String) (line : UInt32)
  | showConfig (json : Bool)
  | writeConfig (force : Bool)
  deriving DecidableEq, Repr, Inhabited

/-- A command and where it is run. -/
structure Invocation where
  /-- The path of the workspace, as it is given. -/
  project : String := "."
  token : Option String := none
  command : Command
  deriving DecidableEq, Repr, Inhabited

/-- The command of a level. -/
def Level.command? (l : Level) : Option Command :=
  match l.name, l.file, l.line with
  | .scan, _, _ => some (.scan (l.has .json))
  | .list, _, _ => some (.list (l.has .json))
  | .createIssue, some file, some line => some (.createIssue file line (l.has .force))
  | .openLink, some file, some line => some (.openLink file line)
  | .permalink, some file, some line => some (.permalink file line)
  | .configShow, _, _ => some (.showConfig (l.has .json))
  | .configInit, _, _ => some (.writeConfig (l.has .force))
  | _, _, _ => none

/-- The value of a setting at the innermost level that has one. -/
def innermost? (levels : List Level) (s : Setting) : Option String :=
  levels.reverse.findSome? (·.settings.lookup s)

/-- Reads the arguments of the program. -/
def Invocation.ofArguments (arguments : List String) : Except Stop Invocation := do
  let levels ← readLevels { name := .program } .anything arguments
  match levels.getLast?.bind Level.command? with
  | none => .error .usage
  | some command =>
    .ok
      { project := (innermost? levels .project).getD "."
        token := innermost? levels .token
        command }

end TrackedComments.CommandLine

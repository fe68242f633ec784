import TrackedComments.Error
import TrackedComments.FileTree.Text
import TrackedComments.Source.Filter
import TrackedComments.Toml.Reader
import TrackedComments.Toml.Writer
import TrackedComments.Tracker.GitHub

/-!
# Configuration

The settings of a workspace stand in a TOML file in its root. Every setting has a default, a missing
file stands for all of them, and keys that are unknown are passed over. Credentials are no setting.

A table of settings may also be an array of their values in order.
-/

namespace TrackedComments

/-- Settings of the view. -/
structure ViewConfig where
  /-- Whether files are ordered without regard to case. -/
  caseInsensitive : Bool := false
  deriving DecidableEq, Repr, Inhabited

/-- Settings of the remote repository. -/
structure GitHubConfig where
  owner : Option String := none
  repo : Option String := none
  apiUrl : String := GitHubSettings.defaultApiUrl
  deriving DecidableEq, Repr, Inhabited

/-- The settings of a workspace. -/
structure Config where
  /-- The pattern that recognises comments. -/
  pattern : String := ScanPattern.defaultSource
  /-- The glob of the files to look at. -/
  include_ : String := FileFilter.defaultInclude
  /-- The glob of the files to leave out. -/
  exclude : String := FileFilter.defaultExclude
  respectGitignore : Bool := true
  /-- How many files are read at a time. -/
  concurrency : UInt64 := 8
  view : ViewConfig := {}
  github : GitHubConfig := {}
  deriving DecidableEq, Repr, Inhabited

namespace Toml.Value

mutual

/-- Whether a value that is passed over could be read: its numbers are not out of range. -/
def isReadable : Value → Bool
  | .integer n => n.toNat < Nat.pow 2 128 && (-n).toNat ≤ Nat.pow 2 127
  | .float inRange => inRange
  | .array _ items => areReadable items
  | .table _ entries => entriesAreReadable entries
  | _ => true

/-- Whether all items of an array could be read. -/
def areReadable : List Value → Bool
  | [] => true
  | item :: items => item.isReadable && areReadable items

/-- Whether all values of a table could be read. -/
def entriesAreReadable : List (String × Value) → Bool
  | [] => true
  | (_, value) :: entries => value.isReadable && entriesAreReadable entries

end

/-- The text of a string. -/
def text? : Value → Option String
  | .string text => some text
  | _ => none

/-- A truth value. -/
def boolean? : Value → Option Bool
  | .boolean value => some value
  | _ => none

/-- A number of 64 bits. -/
def natural? : Value → Option UInt64
  | .integer n => if 0 ≤ n ∧ n < UInt64.size then some (.ofNat n.toNat) else none
  | _ => none

/-- The values of settings with given names: those of a table, or the items of an array in the
order of the names. A date has none of them. -/
def fields? (names : List String) : Value → Option (List (Option Value))
  | .table _ entries =>
    if entries.all fun (key, value) => names.contains key || value.isReadable then
      some (names.map fun name => List.lookup name entries)
    else none
  | .array _ items => some ((List.range names.length).map fun index => items[index]?)
  | .datetime => some (names.map fun _ => none)
  | _ => none

end Toml.Value

/-- The value of a setting, which is the default if it is missing. -/
def settingOr {α : Type} (default : α) (read : Toml.Value → Option α) (value : Option Toml.Value) :
    Option α :=
  value.elim (some default) read

namespace ViewConfig

/-- The settings that a value stands for. -/
def ofToml? (v : Toml.Value) : Option ViewConfig := do
  match ← v.fields? ["case_insensitive"] with
  | [caseInsensitive] =>
    let caseInsensitive ← settingOr false Toml.Value.boolean? caseInsensitive
    some { caseInsensitive }
  | _ => none

end ViewConfig

namespace GitHubConfig

/-- The settings that a value stands for. -/
def ofToml? (v : Toml.Value) : Option GitHubConfig := do
  match ← v.fields? ["owner", "repo", "api_url"] with
  | [owner, repo, apiUrl] =>
    let owner ← settingOr none (fun v => v.text?.map some) owner
    let repo ← settingOr none (fun v => v.text?.map some) repo
    let apiUrl ← settingOr GitHubSettings.defaultApiUrl Toml.Value.text? apiUrl
    some { owner, repo, apiUrl }
  | _ => none

end GitHubConfig

namespace Config

/-- The settings that a document stands for. -/
def ofToml? (entries : Toml.Entries) : Option Config := do
  let names :=
    ["pattern", "include", "exclude", "respect_gitignore", "concurrency", "view", "github"]
  match ← (Toml.Value.table .explicit entries).fields? names with
  | [pattern, include_, exclude, respectGitignore, concurrency, view, github] =>
    let pattern ← settingOr ScanPattern.defaultSource Toml.Value.text? pattern
    let include_ ← settingOr FileFilter.defaultInclude Toml.Value.text? include_
    let exclude ← settingOr FileFilter.defaultExclude Toml.Value.text? exclude
    let respectGitignore ← settingOr true Toml.Value.boolean? respectGitignore
    let concurrency ← settingOr 8 Toml.Value.natural? concurrency
    let view ← settingOr {} ViewConfig.ofToml? view
    let github ← settingOr {} GitHubConfig.ofToml? github
    some { pattern, include_, exclude, respectGitignore, concurrency, view, github }
  | _ => none

/-- Reads a configuration. -/
def read (text : String) : Except Toml.Fault Config :=
  match Toml.read? text.toList with
  | none => .error .malformed
  | some entries =>
    match ofToml? entries with
    | none => .error .wrongType
    | some config => .ok config

/-- A line that sets a key. -/
def line (key : String) (value : List Char) : List Char :=
  key.toList ++ [' ', '=', ' '] ++ value ++ ['\n']

/-- A line that sets a key to a text. -/
def textLine (key value : String) : List Char :=
  line key (Toml.writeString value)

/-- A truth value as it is written. -/
def writeBool (value : Bool) : List Char :=
  if value then ['t', 'r', 'u', 'e'] else ['f', 'a', 'l', 's', 'e']

/-- The configuration as the text of its file. Settings that are absent have no line. -/
def write (c : Config) : String :=
  String.ofList <|
    textLine "pattern" c.pattern ++ textLine "include" c.include_ ++
      textLine "exclude" c.exclude ++
      line "respect_gitignore" (writeBool c.respectGitignore) ++
      line "concurrency" (Nat.toDigits 10 c.concurrency.toNat) ++
      "\n[view]\n".toList ++ line "case_insensitive" (writeBool c.view.caseInsensitive) ++
      "\n[github]\n".toList ++ c.github.owner.elim [] (textLine "owner") ++
      c.github.repo.elim [] (textLine "repo") ++ textLine "api_url" c.github.apiUrl

/-- The configuration as JSON. Settings that are absent have no member. -/
def toJson (c : Config) : Json :=
  let optional (name : String) (value : Option String) : List (String × Json) :=
    value.elim [] fun text => [(name, .ofString text)]
  .ofFields
    [("pattern", .ofString c.pattern), ("include", .ofString c.include_),
      ("exclude", .ofString c.exclude), ("respect_gitignore", .bool c.respectGitignore),
      ("concurrency", .ofNat c.concurrency.toNat),
      ("view", .ofFields [("case_insensitive", .bool c.view.caseInsensitive)]),
      ("github", .ofFields (optional "owner" c.github.owner ++ optional "repo" c.github.repo ++
        [("api_url", .ofString c.github.apiUrl)]))]

/-- The name of the configuration file. -/
def fileName : String := ".comment-to-issue.toml"

/-- The path of the configuration file of a workspace. -/
def path (root : String) : String :=
  String.ofList (Path.join root.toList fileName.toList)

/-- Loads the configuration of a workspace. A missing file stands for the defaults. -/
def load (t : FileTree) (root : String) : Except Error Config :=
  let path := path root
  if t.pathExists path.toList then
    match t.readText path.toList with
    | .error fault => .error (.config ("failed to read: " ++ fault.message) (some path))
    | .ok text =>
      match read text with
      | .error fault => .error (.config ("failed to parse: " ++ fault.message) (some path))
      | .ok config => .ok config
  else .ok {}

/-- Writes the default configuration. A file that is there already is replaced only by force. -/
def writeDefault (t : FileTree) (root : String) (force : Bool) :
    FileTree × Except Error String :=
  let path := path root
  if t.pathExists path.toList && !force then
    (t, .error (.config "configuration file already exists (use --force to overwrite)" (some path)))
  else
    match t.writeText path.toList (write {}) with
    | .error e => (t, .error (.io e.message))
    | .ok t => (t, .ok path)

/-- The pattern of the configuration. -/
def scanPattern (c : Config) : Except Error ScanPattern :=
  match ScanPattern.ofString c.pattern with
  | .ok pattern => .ok pattern
  | .error fault => .error (.invalidPattern c.pattern fault)

/-- The filter of the configuration. -/
def fileFilter (c : Config) : Except Error FileFilter :=
  FileFilter.ofGlobs c.include_ c.exclude

/-- Whether an address is one of a web server. -/
def isWebUrl (url : String) : Bool :=
  "http://".toList.isPrefixOf url.toList || "https://".toList.isPrefixOf url.toList

/-- Checks the settings one after the other and gives the first failure. -/
def validate (c : Config) : Except Error Unit := do
  let _ ← c.scanPattern
  let _ ← c.fileFilter
  if c.concurrency = 0 then .error (.invalidConfig "concurrency" "must be at least 1")
  else if !isWebUrl c.github.apiUrl then
    .error (.invalidConfig "github.api_url" "must be an http(s) URL")
  else .ok ()

/-- The settings of the tracker, with a token that is given. -/
def gitHubSettings (c : Config) (token : Option String) : GitHubSettings :=
  { owner := c.github.owner, repo := c.github.repo, token, apiUrl := c.github.apiUrl }

end Config

end TrackedComments

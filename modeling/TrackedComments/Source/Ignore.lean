import TrackedComments.FileTree.Basic
import TrackedComments.Glob.PathGlob
import TrackedComments.Text.Lines

/-!
# Ignore rules

Files named `.ignore`, `.gitignore` and `.git/info/exclude` list globs of what is to be left out,
one a line, for the directory they belong to and all below it. The last rule of a file that
matches decides; a file nearer to the entry wins over one further up, and the three kinds win over
one another in the order in which they are named here.
-/

namespace TrackedComments

/-- A rule of an ignore file. -/
structure IgnoreRule where
  glob : PathGlob
  /-- Whether what matches is to be kept after all. -/
  keeps : Bool
  /-- Whether only directories are meant. -/
  directoriesOnly : Bool
  deriving Inhabited

namespace IgnoreRule

/-- Whether a list ends in another one. -/
def endsIn (cs suffix : List Char) : Bool :=
  suffix.reverse.isPrefixOf cs.reverse

/-- The glob that a rule stands for. Without a separator in it, it matches at any depth; what stands
for everything in a directory does not match the directory. -/
def globSource (anchored : Bool) (cs : List Char) : List Char :=
  let floating := !anchored && !cs.contains '/' && cs != ['*', '*']
  let cs := if floating then '*' :: '*' :: '/' :: cs else cs
  if endsIn cs ['/', '*', '*'] then cs ++ ['/', '*'] else cs

/-- Takes a separator at the end off, and a backslash before it. -/
def dropFinalSlash (cs : List Char) : Bool × List Char :=
  if cs.getLast? = some '/' then
    let cs := cs.dropLast
    (true, if cs.getLast? = some '\\' then cs.dropLast else cs)
  else (false, cs)

/-- The rule on a line, if there is one. Blank lines, comments and globs that cannot be read are
none. -/
def ofLine? (line : List Char) : Option IgnoreRule :=
  if line.head? = some '#' then none
  else
    let line := if endsIn line ['\\', ' '] then line else Chars.trimEnd line
    if line.isEmpty then none
    else
      let (keeps, anchored, body) : Bool × Bool × List Char :=
        match line with
        | '\\' :: '!' :: rest => (false, false, '!' :: rest)
        | '\\' :: '#' :: rest => (false, false, '#' :: rest)
        | '!' :: '/' :: rest => (true, true, rest)
        | '!' :: rest => (true, false, rest)
        | '/' :: rest => (false, true, rest)
        | _ => (false, false, line)
      let (directoriesOnly, body) := dropFinalSlash body
      match PathGlob.ofChars true true (globSource anchored body) with
      | .error _ => none
      | .ok glob => some { glob, keeps, directoriesOnly }

/-- Whether the rule matches an entry, whose path is relative to the directory of the rule. -/
def isMatch (r : IgnoreRule) (path : List UInt8) (isDirectory : Bool) : Bool :=
  (isDirectory || !r.directoriesOnly) && r.glob.isMatch path

end IgnoreRule

/-- The pieces of bytes between the line feeds. -/
def bytePieces (bytes : List UInt8) : List (List UInt8) :=
  bytes.foldr
    (fun b pieces =>
      if b = 0xa then [] :: pieces
      else match pieces with
        | [] => [[b]]
        | piece :: rest => (b :: piece) :: rest)
    [[]]

/-- A piece of bytes without a carriage return at its end. -/
def dropFinalReturn (piece : List UInt8) : List UInt8 :=
  if piece.getLast? = some 0xd then piece.dropLast else piece

/-- The bytes of each line, without the line feed and a carriage return before it. What follows the
last line feed keeps its carriage return. -/
def byteLines (bytes : List UInt8) : List (List UInt8) :=
  let pieces := bytePieces bytes
  pieces.dropLast.map dropFinalReturn ++ pieces.getLast?.toList

/-- The lines of an ignore file up to the first one that is no text. A byte order mark in front is
dropped. -/
def ignoreLines (content : ByteArray) : List (List Char) :=
  let decoded := (byteLines content.toList).map fun line => String.fromUTF8? line.toByteArray
  let texts := ((decoded.takeWhile Option.isSome).filterMap id).map String.toList
  match texts with
  | [] => []
  | first :: rest => first.dropWhile (· == '\ufeff') :: rest

/-- The rules of an ignore file. -/
def readIgnoreRules (content : ByteArray) : List IgnoreRule :=
  (ignoreLines content).filterMap IgnoreRule.ofLine?

/-- What a list of rules says about an entry: whether it is ignored, if any rule matches. -/
def verdict? (rules : List IgnoreRule) (path : List UInt8) (isDirectory : Bool) : Option Bool :=
  (rules.reverse.find? (·.isMatch path isDirectory)).map fun r => !r.keeps

/-- The rules of one kind of ignore file, by the directory that they belong to. -/
abbrev RulesByDirectory := List (Location × List IgnoreRule)

/-- Collects the rules of the files that stand at the given names below a directory. -/
def FileTree.ignoreRules (t : FileTree) (names : Location) : RulesByDirectory :=
  t.entries.filterMap fun (loc, node) =>
    match node with
    | .directory => none
    | .file content =>
      if loc.drop (loc.length - names.length) = names then
        some (loc.take (loc.length - names.length), readIgnoreRules content)
      else none

/-- The directories above a location, the nearest one first. -/
def ancestors (loc : Location) : List Location :=
  (List.range loc.length).reverse.map loc.take

/-- The bytes of names with separators between them. -/
def relativeBytes (names : Location) : List UInt8 :=
  utf8Bytes (['/'].intercalate (names.map String.toList))

/-- What the rules of one kind say about an entry. -/
def RulesByDirectory.verdict? (rules : RulesByDirectory) (loc : Location) (isDirectory : Bool) :
    Option Bool :=
  (ancestors loc).findSome? fun dir =>
    match rules.lookup dir with
    | none => none
    | some here => TrackedComments.verdict? here (relativeBytes (loc.drop dir.length)) isDirectory

/-- The rules of all kinds in a tree, the kind that wins first. -/
def FileTree.allIgnoreRules (t : FileTree) : List RulesByDirectory :=
  [t.ignoreRules [".ignore"], t.ignoreRules [".gitignore"],
    t.ignoreRules [".git", "info", "exclude"]]

/-- Whether the rules leave an entry out. -/
def isIgnored (rules : List RulesByDirectory) (loc : Location) (isDirectory : Bool) : Bool :=
  (rules.findSome? (·.verdict? loc isDirectory)).getD false

end TrackedComments

import TrackedComments.Glob.Reader

/-!
# Globs for paths

A glob that has been read, ready to be asked about paths. A path to the parent of a directory has no
file name and no extension, so a glob that is looked up by one of them does not match it. As such a
path ends in a dot, only globs that end in one notice.
-/

namespace TrackedComments

/-- A glob for paths. -/
structure PathGlob where
  glob : Glob
  /-- Whether the tokens for bytes stop at separators. -/
  separated : Bool
  /-- Whether it is looked up by file name or extension and ends in a dot. -/
  needsName : Bool
  deriving Inhabited

namespace PathGlob

/-- The byte that an item stands for, if it stands for one. -/
def byte? : Glob.Item → Option UInt8
  | .token (.byte b) => some b
  | _ => none

/-- The byte of `.`. -/
def dot : UInt8 := 0x2e

/-- Whether the items after the directories in front are bytes alone. -/
def isByName (items : List Glob.Item) : Bool :=
  match items with
  | .token .leadingDirectories :: rest =>
    !rest.isEmpty && rest.all fun item => (byte? item).any (· != slash)
  | _ => false

/-- Whether the items are an asterisk, perhaps after directories, and a dot. -/
def isByExtension (separated : Bool) (items : List Glob.Item) : Bool :=
  match items with
  | .token .leadingDirectories :: .token .star :: rest => rest == [.token (.byte dot)]
  | .token .star :: rest => !separated && rest == [.token (.byte dot)]
  | _ => false

/-- Whether the items are bytes alone, perhaps after directories and an asterisk, which are compared
with the end of the path. -/
def isBySuffix (separated : Bool) (items : List Glob.Item) : Bool :=
  let afterDirectories :=
    match items with
    | .token .leadingDirectories :: rest => rest
    | _ => items
  match afterDirectories with
  | .token .star :: rest => !separated && rest.all (byte? · |>.isSome)
  | rest => rest.all (byte? · |>.isSome)

/-- Whether a glob that ends in a dot is looked up by file name or extension. -/
def isByNameOrExtension (separated : Bool) (items : List Glob.Item) : Bool :=
  items.getLast? == some (.token (.byte dot)) &&
    (isByName items || isByExtension separated items ||
      !(items.all (byte? · |>.isSome) || isBySuffix separated items))

/-- The glob of items. -/
def ofItems (separated : Bool) (items : List Glob.Item) : PathGlob :=
  { glob :=
      if items = [.token .leadingDirectories] then .token .star else Glob.ofItems items
    separated := separated && items != [.token .leadingDirectories]
    needsName := isByNameOrExtension separated items }

/-- Reads a glob. -/
def ofChars (separated allowUnclosedClass : Bool) (source : List Char) :
    Except Glob.SyntaxFault PathGlob :=
  match Glob.readItems allowUnclosedClass source with
  | .ok items => .ok (ofItems separated items)
  | .error e => .error e

/-- Whether the last name of a path is `..`. -/
def endsInParent (path : List UInt8) : Bool :=
  path.reverse.takeWhile (· != slash) == [dot, dot]

/-- Whether the glob matches a path. -/
def isMatch (g : PathGlob) (path : List UInt8) : Bool :=
  !(g.needsName && endsInParent path) && g.glob.accepts g.separated path

end PathGlob

end TrackedComments

import TrackedComments.FileTree.OsError
import TrackedComments.FileTree.Path

/-!
# File trees

The files and directories that the library works on, as a value. A location is the list of names
from the root of the tree; every operation takes a path in text form, walks it the way the
operating system does and works on the location that it leads to.

## Main results

* `FileTree.get?_set`: setting a node changes what stands at its location and nothing else.
* `FileTree.get?_erase`: erasing a location leaves every other one as it was.
-/

namespace TrackedComments

/-- Where a file or directory stands: the names from the root. -/
abbrev Location := List String

/-- What stands at a location. -/
inductive Node where
  | file (content : ByteArray)
  | directory
  deriving Inhabited

instance : DecidableEq Node
  | .file a, .file b =>
    decidable_of_iff (a.data = b.data) ⟨fun h => congrArg Node.file (ByteArray.ext h), fun h => by
      cases h; rfl⟩
  | .file _, .directory => isFalse nofun
  | .directory, .file _ => isFalse nofun
  | .directory, .directory => isTrue rfl

/-- A tree of files and directories. The root is a directory and is not listed. -/
structure FileTree where
  entries : List (Location × Node)
  nodup : (entries.map Prod.fst).Nodup := by simp

namespace FileTree

/-- The tree without files. -/
def empty : FileTree := ⟨[], .nil⟩

instance : Inhabited FileTree := ⟨empty⟩

/-- What stands at a location. -/
def get? (t : FileTree) (loc : Location) : Option Node :=
  if loc = [] then some .directory else t.entries.lookup loc

/-- Puts a node at a location, in the place of what stood there. -/
def setEntry (loc : Location) (node : Node) : List (Location × Node) → List (Location × Node)
  | [] => [(loc, node)]
  | (l, n) :: rest => if l = loc then (loc, node) :: rest else (l, n) :: setEntry loc node rest

/-- Setting an entry adds its place to the listed ones. -/
theorem mem_fst_setEntry {loc l : Location} {node : Node} {entries : List (Location × Node)} :
    l ∈ (setEntry loc node entries).map Prod.fst ↔ l = loc ∨ l ∈ entries.map Prod.fst := by
  fun_induction setEntry loc node entries <;> grind

/-- Setting an entry lists no place twice. -/
theorem nodup_setEntry (loc : Location) (node : Node) {entries : List (Location × Node)}
    (h : (entries.map Prod.fst).Nodup) : ((setEntry loc node entries).map Prod.fst).Nodup := by
  fun_induction setEntry loc node entries with
  | case1 => simp
  | case2 => exact h
  | case3 l n rest hne ih =>
    rw [List.map_cons, List.nodup_cons] at h ⊢
    exact ⟨fun hmem => (mem_fst_setEntry.mp hmem).elim hne h.1, ih h.2⟩

/-- Puts a node at a location. -/
def set (t : FileTree) (loc : Location) (node : Node) : FileTree :=
  ⟨setEntry loc node t.entries, nodup_setEntry loc node t.nodup⟩

/-- Removes what stands at the locations that satisfy a condition. -/
def eraseIf (t : FileTree) (p : Location → Bool) : FileTree :=
  ⟨t.entries.filter fun e => !p e.1, t.nodup.sublist (List.filter_sublist.map _)⟩

/-- Removes what stands at a location. -/
def erase (t : FileTree) (loc : Location) : FileTree :=
  t.eraseIf (· == loc)

/-- What has been set for a place is found for it, and the rest as before. -/
theorem lookup_setEntry (loc l : Location) (node : Node) (entries : List (Location × Node)) :
    (setEntry loc node entries).lookup l = if l = loc then some node else entries.lookup l := by
  fun_induction setEntry loc node entries <;> grind

/-- Setting a node changes what stands at its location and nothing else. -/
theorem get?_set {t : FileTree} {loc l : Location} {node : Node} (hl : l ≠ []) :
    (t.set loc node).get? l = if l = loc then some node else t.get? l := by
  simp [get?, hl, set, lookup_setEntry]

/-- What has been taken out is not found, and the rest as before. -/
theorem lookup_filter_ne (loc l : Location) (entries : List (Location × Node)) :
    (entries.filter fun e => !(e.1 == loc)).lookup l =
      if l = loc then none else entries.lookup l := by
  induction entries with
  | nil => simp
  | cons e rest ih => obtain ⟨k, n⟩ := e; grind

/-- Erasing a location leaves every other one as it was. -/
theorem get?_erase {t : FileTree} {loc l : Location} (hl : l ≠ []) :
    (t.erase loc).get? l = if l = loc then none else t.get? l := by
  simp only [get?, hl, if_false, erase, eraseIf, lookup_filter_ne]

/-! ### Walking paths -/

/-- The greatest length of a name in bytes. -/
def maxNameLength : Nat := 255

/-- Walks from a directory along the parts of a path. All parts but the last have to lead to
directories; the last one may name something that does not exist. -/
def walkFrom (t : FileTree) (loc : Location) : List (List Char) → Except OsError Location
  | [] => .ok loc
  | part :: rest =>
    match t.get? loc with
    | none => .error .notFound
    | some (.file _) => .error .notDirectory
    | some .directory =>
      if part = [] ∨ part = ['.'] then t.walkFrom loc rest
      else if part = ['.', '.'] then t.walkFrom loc.dropLast rest
      else
        let name := String.ofList part
        if name.utf8ByteSize > maxNameLength then .error .nameTooLong
        else t.walkFrom (loc ++ [name]) rest

/-- The location that a path leads to. -/
def locate (t : FileTree) (path : List Char) : Except OsError Location :=
  if path.isEmpty then .error .notFound
  else if path.contains '\x00' then .error .nulInName
  else t.walkFrom [] (Chars.splitAtChar '/' path)

/-- What a path leads to, or why it leads nowhere. -/
def find (t : FileTree) (path : List Char) : Except OsError (Location × Node) :=
  match t.locate path with
  | .error e => .error e
  | .ok loc =>
    match t.get? loc with
    | none => .error .notFound
    | some node => .ok (loc, node)

/-- Whether a path leads to something. -/
def pathExists (t : FileTree) (path : List Char) : Bool :=
  (t.find path).toBool

/-- Whether a path leads to a directory. -/
def isDirectory (t : FileTree) (path : List Char) : Bool :=
  match t.find path with
  | .ok (_, .directory) => true
  | _ => false

/-- The bytes of the file that a path leads to. -/
def read (t : FileTree) (path : List Char) : Except OsError ByteArray :=
  match t.find path with
  | .error e => .error e
  | .ok (_, .directory) => .error .isDirectory
  | .ok (_, .file content) => .ok content

/-- Makes a path lead to a file with a content. The file is created or its content replaced. -/
def write (t : FileTree) (path : List Char) (content : ByteArray) : Except OsError FileTree :=
  match t.locate path with
  | .error e => .error e
  | .ok loc =>
    match t.get? loc with
    | some .directory => .error .isDirectory
    | _ => .ok (t.set loc (.file content))

/-- Moves the file that a path leads to over the file that another path leads to. -/
def rename (t : FileTree) (source target : List Char) : Except OsError FileTree :=
  match t.read source, t.locate source, t.locate target with
  | .ok content, .ok old, .ok new =>
    match t.get? new with
    | some .directory => .error .isDirectory
    | _ => .ok ((t.erase old).set new (.file content))
  | .error e, _, _ => .error e
  | _, .error e, _ => .error e
  | _, _, .error e => .error e

/-- Creates the directories along the parts of a path that do not exist yet. -/
def createDirectoriesFrom (t : FileTree) (loc : Location) :
    List (List Char) → Except OsError FileTree
  | [] => .ok t
  | part :: rest =>
    if part = [] ∨ part = ['.'] then t.createDirectoriesFrom loc rest
    else if part = ['.', '.'] then t.createDirectoriesFrom loc.dropLast rest
    else
      let name := String.ofList part
      let loc := loc ++ [name]
      if name.utf8ByteSize > maxNameLength then .error .nameTooLong
      else match t.get? loc with
        | some .directory => t.createDirectoriesFrom loc rest
        | some (.file _) =>
          .error (if rest.all fun p => p = [] ∨ p = ['.'] then .alreadyExists else .notDirectory)
        | none => (t.set loc .directory).createDirectoriesFrom loc rest

/-- Creates a directory and the directories that lead to it. -/
def createDirectories (t : FileTree) (path : List Char) : Except OsError FileTree :=
  if path.contains '\x00' then .error .nulInName
  else t.createDirectoriesFrom [] (Chars.splitAtChar '/' path)

/-- Removes the file or the directory with all that is in it that a path leads to. -/
def remove (t : FileTree) (path : List Char) : Except OsError FileTree :=
  match t.find path with
  | .error e => .error e
  | .ok (loc, _) => .ok (t.eraseIf (loc.isPrefixOf ·))

/-- The files below a directory, each with the names that lead to it from there. -/
def filesBelow (t : FileTree) (loc : Location) : List (Location × ByteArray) :=
  t.entries.filterMap fun (l, node) =>
    match node, Path.dropPrefix? loc l with
    | .file content, some (name :: rest) => some (name :: rest, content)
    | _, _ => none

end FileTree

end TrackedComments

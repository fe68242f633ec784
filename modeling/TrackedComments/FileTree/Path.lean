import TrackedComments.Text.Split

/-!
# Paths

A path is a text with `/` between its components. Repeated separators, a separator at the end and
the component `.` inside a path say nothing; `..` is a component like any other until the path is
walked.

## Main results

* `Path.relativeTo?_self`: a path is not a file below itself.
-/

namespace TrackedComments.Path

/-- A component of a path. -/
inductive Component where
  /-- The separator that starts an absolute path. -/
  | root
  /-- The dot that starts a relative path. -/
  | current
  /-- A name, `..` included. -/
  | name (text : List Char)
  deriving DecidableEq, Repr, Inhabited

/-- How a component is written. -/
def Component.toChars : Component → List Char
  | root => ['/']
  | current => ['.']
  | name text => text

/-- The names between the separators, without those that say nothing. -/
def names (path : List Char) : List (List Char) :=
  (Chars.splitAtChar '/' path).filter fun part => !(part.isEmpty || part == ['.'])

/-- The components of a path. -/
def components (path : List Char) : List Component :=
  let rest := (names path).map Component.name
  match path with
  | '/' :: _ => .root :: rest
  | ['.'] => .current :: rest
  | '.' :: '/' :: _ => .current :: rest
  | _ => rest

/-- What follows one list in another that begins with it. -/
def dropPrefix? {α : Type} [DecidableEq α] : List α → List α → Option (List α)
  | [], rest => some rest
  | _ :: _, [] => none
  | a :: before, b :: rest => if a = b then dropPrefix? before rest else none

/-- The identity of a file below a root: the components of its path after those of the root. A root
is no file below itself. -/
def relativeTo? (root path : List Char) : Option (List Char) :=
  match dropPrefix? (components root) (components path) with
  | none => none
  | some [] => none
  | some (c :: rest) => some (['/'].intercalate ((c :: rest).map Component.toChars))

/-- The path of a file below a root. An absolute path stays as it is. -/
def join (root file : List Char) : List Char :=
  match file with
  | '/' :: _ => file
  | _ => if root.isEmpty || root.getLast? == some '/' then root ++ file else root ++ '/' :: file

/-- The last name of a path, unless it is `..`. -/
def fileName? (path : List Char) : Option (List Char) :=
  match (components path).getLast? with
  | some (.name text) => if text = ['.', '.'] then none else some text
  | _ => none

/-- The path of a file beside another one. -/
def withFileName (path name : List Char) : List Char :=
  match fileName? path with
  | none => join path name
  | some _ =>
    let trimmed := (path.reverse.dropWhile (· == '/')).reverse
    (trimmed.reverse.dropWhile (· != '/')).reverse ++ name

/-- Nothing is left of a list that is its own front. -/
theorem dropPrefix?_self {α : Type} [DecidableEq α] (xs : List α) :
    dropPrefix? xs xs = some [] := by
  induction xs with
  | nil => rfl
  | cons x xs ih => simp [dropPrefix?, ih]

/-- What follows one list in another is what is left when it is taken off. -/
theorem dropPrefix?_eq_some_iff {α : Type} [DecidableEq α] {before whole rest : List α} :
    dropPrefix? before whole = some rest ↔ whole = before ++ rest := by
  fun_induction dropPrefix? before whole <;> simp_all [eq_comm]

/-- A path is not a file below itself. -/
theorem relativeTo?_self (path : List Char) : relativeTo? path path = none := by
  rw [relativeTo?, dropPrefix?_self]

end TrackedComments.Path

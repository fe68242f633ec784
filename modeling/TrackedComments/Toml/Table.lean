import TrackedComments.Toml.Value

/-!
# Defining keys of TOML tables

A key is defined once. A header opens a table that no other header and no dotted key has defined; a
dotted key extends only tables that other dotted keys have begun.
-/

namespace TrackedComments.Toml

/-- Whether a table has not been defined on its own. -/
def TableKind.isImplied : TableKind → Bool
  | implicit | dotted => true
  | inline | explicit => false

/-- Changes the table that a path leads to. Tables on the way that do not exist are begun; for an
array of tables the way goes on in its last one. -/
def updateIn (dotted : Bool) (f : TableKind → Entries → Option (TableKind × Entries)) :
    List String → TableKind → Entries → Option (TableKind × Entries)
  | [], kind, entries => f kind entries
  | key :: path, kind, entries =>
    match entries.lookup key with
    | none =>
      let begun := if dotted then TableKind.dotted else TableKind.implicit
      (updateIn dotted f path begun []).map fun (k, es) =>
        (kind, setEntry key (.table k es) entries)
    | some (.table childKind child) =>
      if childKind = .inline ∨ (dotted ∧ !childKind.isImplied) then none
      else
        (updateIn dotted f path childKind child).map fun (k, es) =>
          (kind, setEntry key (.table k es) entries)
    | some (.array true items) =>
      match items.getLast? with
      | some (.table childKind child) =>
        (updateIn dotted f path childKind child).map fun (k, es) =>
          (kind, setEntry key (.array true (items.dropLast ++ [.table k es])) entries)
      | _ => none
    | some _ => none

/-- Opens a table with a header. -/
def openTable (key : String) (kind : TableKind) (entries : Entries) :
    Option (TableKind × Entries) :=
  match entries.lookup key with
  | none => some (kind, setEntry key (.table .explicit []) entries)
  | some (.table .implicit child) => some (kind, setEntry key (.table .explicit child) entries)
  | some _ => none

/-- Adds a table to an array with a header. -/
def openItem (key : String) (kind : TableKind) (entries : Entries) :
    Option (TableKind × Entries) :=
  match entries.lookup key with
  | none => some (kind, setEntry key (.array true [.table .explicit []]) entries)
  | some (.array true items) =>
    some (kind, setEntry key (.array true (items ++ [.table .explicit []])) entries)
  | some _ => none

/-- Defines a key, which may be the last part of a dotted one. -/
def define (isDotted : Bool) (key : String) (value : Value) (kind : TableKind)
    (entries : Entries) : Option (TableKind × Entries) :=
  if isDotted ≠ (kind == .dotted) then none
  else
    match entries.lookup key with
    | none => some (kind, setEntry key value entries)
    | some _ => none

/-- Defines the key that a path with dots names, below a table. -/
def definePath (path : List String) (value : Value) (kind : TableKind) (entries : Entries) :
    Option (TableKind × Entries) :=
  match path.getLast? with
  | none => none
  | some key =>
    let parents := path.dropLast
    updateIn true (define (!parents.isEmpty) key value) parents kind entries

end TrackedComments.Toml

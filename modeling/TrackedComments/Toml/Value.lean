/-!
# TOML values

What a TOML document says. Numbers with a fraction and dates are told from other values but not
interpreted, because no setting has such a value.
-/

namespace TrackedComments.Toml

/-- How a table has come about, which decides how it can be extended. -/
inductive TableKind where
  /-- Written between braces; it is complete. -/
  | inline
  /-- Named by a header of its own, or the whole document. -/
  | explicit
  /-- Named as a part of the header of another table. -/
  | implicit
  /-- Named as a part of a dotted key. -/
  | dotted
  deriving DecidableEq, Repr, Inhabited

/-- A TOML value. -/
inductive Value where
  | string (text : String)
  | integer (n : Int)
  /-- A number with a fraction or an exponent, and whether it is within the range of such
  numbers. -/
  | float (inRange : Bool)
  | boolean (value : Bool)
  /-- A date, a time or both. -/
  | datetime
  /-- An array, and whether it is one of tables with headers. -/
  | array (ofTables : Bool) (items : List Value)
  /-- A table with its keys in the order of their definition. -/
  | table (kind : TableKind) (entries : List (String × Value))
  deriving Repr, Inhabited

/-- The keys of a table with their values. -/
abbrev Entries := List (String × Value)

/-- Sets the value of a key, at its place or at the end. -/
def setEntry (key : String) (value : Value) : Entries → Entries
  | [] => [(key, value)]
  | (k, v) :: rest => if k = key then (key, value) :: rest else (k, v) :: setEntry key value rest

/-- Why a document cannot be read. -/
inductive Fault where
  /-- The document is not well formed. -/
  | malformed
  /-- A setting has a value of the wrong type. -/
  | wrongType
  deriving DecidableEq, Repr, Inhabited

/-- The fault in words. -/
def Fault.message : Fault → String
  | malformed => "not a TOML document"
  | wrongType => "a value of the wrong type"

end TrackedComments.Toml

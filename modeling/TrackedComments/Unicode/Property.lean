import TrackedComments.Unicode.CharSet

/-!
# Named properties of characters

A property of characters as the standard publishes it: the names it goes by, and the code points
that have it.
-/

namespace TrackedComments.Unicode

/-- A property with its names and the rows of its table. -/
structure Property where
  names : List String
  rows : List String
  deriving Inhabited

/-- The code points with the property. -/
def Property.toCharSet (p : Property) : CharSet :=
  .ofTable p.rows

/-- A name as it is compared: in lower case, without blanks, hyphens and underscores, and without a
leading `is`. -/
def looseName (name : List Char) : List Char :=
  let plain := (name.map Char.toLower).filter fun c => !(c == ' ' || c == '-' || c == '_')
  match plain with
  | 'i' :: 's' :: rest => if rest = ['c'] then plain else rest
  | _ => plain

/-- Whether a property goes by a name. -/
def Property.isNamed (p : Property) (name : List Char) : Bool :=
  p.names.any fun known => looseName known.toList == looseName name

/-- The property of a table that goes by a name. -/
def Property.find? (table : List Property) (name : List Char) : Option Property :=
  table.find? (·.isNamed name)

end TrackedComments.Unicode

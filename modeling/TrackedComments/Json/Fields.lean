import TrackedComments.Json.Basic

/-!
# Fields of JSON objects

Looking members of an object up by name, where a member that is given twice is a fault.
-/

namespace TrackedComments.Json

/-- Whether all names of members are texts. -/
def hasTextNames (members : List (Option String × Json)) : Bool :=
  members.all (·.1.isSome)

/-- The values of the members with a name. -/
def valuesOf (name : String) (members : List (Option String × Json)) : List Json :=
  members.filterMap fun m => if m.1 = some name then some m.2 else none

/-- The value of a member that may be missing but not be given twice. -/
def optionalField (name : String) (members : List (Option String × Json)) :
    Option (Option Json) :=
  match valuesOf name members with
  | [] => some none
  | [value] => some (some value)
  | _ => none

/-- The value of a member that has to be given once. -/
def requiredField (name : String) (members : List (Option String × Json)) : Option Json :=
  match valuesOf name members with
  | [value] => some value
  | _ => none

end TrackedComments.Json

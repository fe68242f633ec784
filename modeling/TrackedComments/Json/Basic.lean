/-!
# JSON values

JSON as far as this library reads and writes it: the only numbers that it knows are the natural
ones. A printed value is laid out on one line, or with two blanks of indentation for every level.

Some documents hold more than that, and a reader still has to tell whether they are well formed. So
a number may have no value here, and a string may have no text.
-/

namespace TrackedComments

/-- A JSON value. -/
inductive Json where
  | null
  | bool (value : Bool)
  /-- A number; it has a value here if it is written in digits alone. -/
  | number (value : Option Nat)
  /-- A string; it has no text if an escape in it is half of a surrogate pair. -/
  | string (text : Option String)
  | array (items : List Json)
  /-- An object with its members as they are written, repeated names included. -/
  | object (members : List (Option String × Json))
  deriving Repr, Inhabited

namespace Json

/-- A natural number. -/
def ofNat (n : Nat) : Json := .number (some n)

/-- A text. -/
def ofString (s : String) : Json := .string (some s)

/-- An object whose names are texts. -/
def ofFields (fields : List (String × Json)) : Json :=
  .object (fields.map fun (name, value) => (some name, value))

/-- How the parts of a printed value are set apart. -/
inductive Layout where
  /-- All on one line, without blanks. -/
  | compact
  /-- Each item on a line of its own, at a depth. -/
  | indented (depth : Nat)
  deriving DecidableEq, Repr, Inhabited

/-- The layout one level further in. -/
def Layout.inner : Layout → Layout
  | compact => compact
  | indented depth => indented (depth + 1)

/-- What stands before an item, or before a closing bracket. -/
def Layout.lineBreak : Layout → List Char
  | compact => []
  | indented depth => '\n' :: List.replicate (2 * depth) ' '

/-- What stands between a name and its value. -/
def Layout.colon : Layout → List Char
  | compact => [':']
  | indented _ => [':', ' ']

/-- A character of a string as it is printed: quotes, backslashes and control characters below the
blank are escaped, all else stands for itself. -/
def escape (c : Char) : List Char :=
  if c = '"' then ['\\', '"']
  else if c = '\\' then ['\\', '\\']
  else if c = '\x08' then ['\\', 'b']
  else if c = '\x0c' then ['\\', 'f']
  else if c = '\n' then ['\\', 'n']
  else if c = '\r' then ['\\', 'r']
  else if c = '\t' then ['\\', 't']
  else if c.toNat < 0x20 then
    ['\\', 'u', '0', '0', Nat.digitChar (c.toNat / 16), Nat.digitChar (c.toNat % 16)]
  else [c]

/-- A string as it is printed. One without text is printed as half of a surrogate pair. -/
def printString : Option String → List Char
  | none => ['"', '\\', 'u', 'd', '8', '0', '0', '"']
  | some text => '"' :: text.toList.flatMap escape ++ ['"']

/-- A number as it is printed. One without a value is printed as a negative number. -/
def printNumber : Option Nat → List Char
  | none => ['-', '1']
  | some n => Nat.toDigits 10 n

mutual

/-- A value as text. -/
def print (layout : Layout) : Json → List Char
  | .null => ['n', 'u', 'l', 'l']
  | .bool true => ['t', 'r', 'u', 'e']
  | .bool false => ['f', 'a', 'l', 's', 'e']
  | .number value => printNumber value
  | .string text => printString text
  | .array [] => ['[', ']']
  | .array (item :: items) =>
    '[' :: layout.inner.lineBreak ++ item.print layout.inner ++ printItems layout.inner items ++
      layout.lineBreak ++ [']']
  | .object [] => ['\x7b', '\x7d']
  | .object ((name, value) :: members) =>
    '\x7b' :: layout.inner.lineBreak ++ printString name ++ layout.colon ++
      value.print layout.inner ++ printMembers layout.inner members ++ layout.lineBreak ++ ['\x7d']

/-- The further items of an array as text. -/
def printItems (layout : Layout) : List Json → List Char
  | [] => []
  | item :: items => ',' :: layout.lineBreak ++ item.print layout ++ printItems layout items

/-- The further members of an object as text. -/
def printMembers (layout : Layout) : List (Option String × Json) → List Char
  | [] => []
  | (name, value) :: members =>
    ',' :: layout.lineBreak ++ printString name ++ layout.colon ++ value.print layout ++
      printMembers layout members

end

/-- A value as text on one line. -/
def compact (value : Json) : String :=
  String.ofList (value.print .compact)

/-- A value as text with indentation. -/
def pretty (value : Json) : String :=
  String.ofList (value.print (.indented 0))

/-- The text of a string. -/
def text? : Json → Option String
  | .string text => text
  | _ => none

/-- The value of a natural number below a bound. -/
def natBelow? (bound : Nat) : Json → Option Nat
  | .number (some n) => if n < bound then some n else none
  | _ => none

end Json

end TrackedComments

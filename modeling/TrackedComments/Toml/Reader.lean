import TrackedComments.Toml.Scalar
import TrackedComments.Toml.Table

/-!
# Reading TOML

A document is a sequence of lines: keys with values, headers of tables, comments and blank lines.
Arrays and inline tables go on over line breaks and may nest up to a limit. Every function takes the
text that is left and gives back what it has read and the text after it; the fuel bounds the number
of items.
-/

namespace TrackedComments.Toml

/-- How deeply arrays and inline tables may be nested. -/
def maxDepth : Nat := 80

/-- The text after blanks. -/
def skipBlanks (cs : List Char) : List Char :=
  cs.dropWhile isBlank

/-- The text after a comment, if there is one. -/
def skipComment : List Char → List Char
  | '#' :: rest => rest.dropWhile isTextChar
  | cs => cs

/-- The text after blanks, comments and line breaks. -/
def skipLines : Nat → List Char → List Char
  | 0, cs => cs
  | fuel + 1, cs =>
    match dropNewline? (skipComment (skipBlanks cs)) with
    | some rest => skipLines fuel rest
    | none => skipComment (skipBlanks cs)

/-- The text after blanks, comments and line breaks between the parts of a value. -/
def skipGap (cs : List Char) : List Char :=
  skipLines cs.length cs

/-- Whether a character may stand in a key without quotes. -/
def isBareChar (c : Char) : Bool :=
  c.isAlphanum || c == '_' || c == '-'

/-- Reads a part of a key. -/
def readKeyPart? (cs : List Char) : Option (String × List Char) :=
  let bare := cs.takeWhile isBareChar
  if bare.isEmpty then
    (readLineString? cs).map fun (text, rest) => (String.ofList text, rest)
  else some (String.ofList bare, cs.drop bare.length)

/-- Reads the parts of a key, with dots between them and blanks around. -/
def readKey? : Nat → List Char → Option (List String × List Char)
  | 0, _ => none
  | fuel + 1, cs =>
    match readKeyPart? (skipBlanks cs) with
    | none => none
    | some (part, rest) =>
      match skipBlanks rest with
      | '.' :: rest => (readKey? fuel rest).map fun (parts, rest) => (part :: parts, rest)
      | rest => some ([part], rest)

/-- Reads a key, the sign after it and the value that a reader gives. -/
def readPair? (readValue : List Char → Option (Value × List Char)) (cs : List Char) :
    Option (List String × Value × List Char) :=
  match readKey? cs.length cs with
  | some (path, '=' :: rest) =>
    (readValue (skipBlanks rest)).map fun (value, rest) => (path, value, rest)
  | _ => none

/-- Reads the items of an array up to its closing bracket; `before` are those that have been read,
in reverse. -/
def readItems? (readValue : List Char → Option (Value × List Char)) (before : List Value) :
    Nat → List Char → Option (Value × List Char)
  | 0, _ => none
  | fuel + 1, cs =>
    match skipGap cs with
    | ']' :: rest => some (.array false before.reverse, rest)
    | cs =>
      match readValue cs with
      | none => none
      | some (item, rest) =>
        match skipGap rest with
        | ',' :: rest => readItems? readValue (item :: before) fuel rest
        | ']' :: rest => some (.array false (item :: before).reverse, rest)
        | _ => none

/-- Reads the pairs of an inline table up to its closing brace; `entries` are the keys so far. -/
def readPairs? (readValue : List Char → Option (Value × List Char)) (entries : Entries) :
    Nat → List Char → Option (Value × List Char)
  | 0, _ => none
  | fuel + 1, cs =>
    match skipGap cs with
    | '\x7d' :: rest => some (.table .inline entries, rest)
    | cs =>
      match readPair? readValue cs with
      | none => none
      | some (path, value, rest) =>
        match definePath path value .inline entries with
        | none => none
        | some (_, entries) =>
          match skipGap rest with
          | ',' :: rest => readPairs? readValue entries fuel rest
          | '\x7d' :: rest => some (.table .inline entries, rest)
          | _ => none

/-- Reads a value that nests up to a depth. -/
def readValue? : Nat → List Char → Option (Value × List Char)
  | _, '"' :: rest =>
    (readString? ('"' :: rest)).map fun (text, rest) => (.string (String.ofList text), rest)
  | _, '\'' :: rest =>
    (readString? ('\'' :: rest)).map fun (text, rest) => (.string (String.ofList text), rest)
  | 0, '[' :: _ => none
  | 0, '\x7b' :: _ => none
  | depth + 1, '[' :: rest => readItems? (readValue? depth) [] (rest.length + 1) rest
  | depth + 1, '\x7b' :: rest => readPairs? (readValue? depth) [] (rest.length + 1) rest
  | _, cs => readScalar? cs

/-- What a line says. -/
inductive Statement where
  | pair (path : List String) (value : Value)
  | table (path : List String)
  | item (path : List String)

/-- Reads what a line says, if it is neither blank nor a comment. -/
def readStatement? (cs : List Char) : Option (Statement × List Char) :=
  match cs with
  | '[' :: '[' :: rest =>
    match readKey? rest.length rest with
    | some (path, ']' :: ']' :: rest) => some (.item path, rest)
    | _ => none
  | '[' :: rest =>
    match readKey? rest.length rest with
    | some (path, ']' :: rest) => some (.table path, rest)
    | _ => none
  | _ =>
    (readPair? (readValue? maxDepth) cs).map fun (path, value, rest) => (.pair path value, rest)

/-- A document that has been read in part. -/
structure Document where
  entries : Entries
  /-- The table of the last header. -/
  current : List String

/-- Takes what a line says into a document. -/
def Document.add? (d : Document) : Statement → Option Document
  | .pair path value =>
    (updateIn false (definePath path value) d.current .explicit d.entries).map fun (_, entries) =>
      { d with entries }
  | .table path =>
    (path.getLast?).bind fun key =>
      (updateIn false (openTable key) path.dropLast .explicit d.entries).map fun (_, entries) =>
        { entries, current := path }
  | .item path =>
    (path.getLast?).bind fun key =>
      (updateIn false (openItem key) path.dropLast .explicit d.entries).map fun (_, entries) =>
        { entries, current := path }

/-- Reads the lines of a document. -/
def readLines? (d : Document) : Nat → List Char → Option Document
  | 0, _ => none
  | fuel + 1, cs =>
    match skipBlanks cs with
    | [] => some d
    | '#' :: rest =>
      match rest.dropWhile isTextChar with
      | [] => some d
      | rest => (dropNewline? rest).bind (readLines? d fuel)
    | cs =>
      match dropNewline? cs with
      | some rest => readLines? d fuel rest
      | none =>
        match readStatement? cs with
        | none => none
        | some (statement, rest) =>
          match d.add? statement with
          | none => none
          | some d =>
            match skipComment (skipBlanks rest) with
            | [] => some d
            | rest => (dropNewline? rest).bind (readLines? d fuel)

/-- Reads a document. A byte order mark in front is dropped. -/
def read? (cs : List Char) : Option Entries :=
  let cs :=
    match cs with
    | '\ufeff' :: rest => rest
    | _ => cs
  (readLines? ⟨[], []⟩ (cs.length + 1) cs).map Document.entries

end TrackedComments.Toml

/-!
# Strings of TOML

A string is written in one of four forms: between one or three quotes, where a backslash begins an
escape, or between one or three apostrophes, where every character stands for itself. The forms with
three delimiters may hold line breaks; one right after the opening delimiter does not count.

Every function takes the text that is left and gives back what it has read and the text after it;
`before` are the characters that have been read, in reverse. The fuel bounds the number of
characters.
-/

namespace TrackedComments.Toml

/-- Whether a character may stand for itself in a string: tabs and all but control characters. -/
def isTextChar (c : Char) : Bool :=
  c == '\t' || (0x20 ≤ c.toNat && c.toNat != 0x7f)

/-- The value of a hexadecimal digit. -/
def hexValue? (c : Char) : Option Nat :=
  if '0' ≤ c ∧ c ≤ '9' then some (c.toNat - '0'.toNat)
  else if 'a' ≤ c ∧ c ≤ 'f' then some (c.toNat - 'a'.toNat + 10)
  else if 'A' ≤ c ∧ c ≤ 'F' then some (c.toNat - 'A'.toNat + 10)
  else none

/-- Reads a character given by a number of hexadecimal digits. -/
def readCode (count : Nat) (cs : List Char) : Option (Char × List Char) := do
  let digits := cs.take count
  if digits.length ≠ count then none
  else
    let values ← digits.mapM hexValue?
    let code := values.foldl (fun n d => n * 16 + d) 0
    if code.isValidChar then some (Char.ofNat code, cs.drop count) else none

/-- Reads what follows a backslash. -/
def readEscape : List Char → Option (Char × List Char)
  | [] => none
  | c :: rest =>
    match c with
    | 'b' => some ('\x08', rest)
    | 't' => some ('\t', rest)
    | 'n' => some ('\n', rest)
    | 'f' => some ('\x0c', rest)
    | 'r' => some ('\r', rest)
    | 'e' => some ('\x1b', rest)
    | '"' => some ('"', rest)
    | '\\' => some ('\\', rest)
    | 'x' => readCode 2 rest
    | 'u' => readCode 4 rest
    | 'U' => readCode 8 rest
    | _ => none

/-- Reads the rest of a string between single quotes. -/
def readBasic (before : List Char) : Nat → List Char → Option (List Char × List Char)
  | 0, _ => none
  | _ + 1, [] => none
  | _ + 1, '"' :: rest => some (before.reverse, rest)
  | fuel + 1, '\\' :: rest =>
    match readEscape rest with
    | none => none
    | some (c, rest) => readBasic (c :: before) fuel rest
  | fuel + 1, c :: rest => if isTextChar c then readBasic (c :: before) fuel rest else none

/-- Reads the rest of a string between single apostrophes. -/
def readLiteral (before : List Char) : List Char → Option (List Char × List Char)
  | [] => none
  | '\'' :: rest => some (before.reverse, rest)
  | c :: rest => if isTextChar c then readLiteral (c :: before) rest else none

/-- The text after a line break in front. -/
def dropNewline? : List Char → Option (List Char)
  | '\n' :: rest => some rest
  | '\r' :: '\n' :: rest => some rest
  | _ => none

/-- Whether a character is a blank within a line. -/
def isBlank (c : Char) : Bool :=
  c == ' ' || c == '\t'

/-- The text after blanks and line breaks. -/
def skipBlankLines : Nat → List Char → List Char
  | 0, cs => cs
  | fuel + 1, cs =>
    match dropNewline? (cs.dropWhile isBlank) with
    | some rest => skipBlankLines fuel rest
    | none => cs.dropWhile isBlank

/-- The end of a string between three delimiters, if the text begins with it: up to two more of the
delimiters in front belong to the string. -/
def closeTriple? (delimiter : Char) (before : List Char) (cs : List Char) :
    Option (List Char × List Char) :=
  if cs.take 3 = List.replicate 3 delimiter then
    let rest := cs.drop 3
    let extra := min 2 (rest.takeWhile (· == delimiter)).length
    some (before.reverse ++ List.replicate extra delimiter, rest.drop extra)
  else none

/-- Reads the rest of a string between three quotes. A backslash at the end of a line takes the line
break and all blanks after it away. -/
def readTripleBasic (before : List Char) : Nat → List Char → Option (List Char × List Char)
  | 0, _ => none
  | fuel + 1, cs =>
    match closeTriple? '"' before cs with
    | some result => some result
    | none =>
      match cs with
      | [] => none
      | '\\' :: rest =>
        match dropNewline? (rest.dropWhile isBlank) with
        | some after => readTripleBasic before fuel (skipBlankLines after.length after)
        | none =>
          match readEscape rest with
          | none => none
          | some (c, rest) => readTripleBasic (c :: before) fuel rest
      | '\n' :: rest => readTripleBasic ('\n' :: before) fuel rest
      | '\r' :: '\n' :: rest => readTripleBasic ('\n' :: '\r' :: before) fuel rest
      | c :: rest => if isTextChar c then readTripleBasic (c :: before) fuel rest else none

/-- Reads the rest of a string between three apostrophes. -/
def readTripleLiteral (before : List Char) : Nat → List Char → Option (List Char × List Char)
  | 0, _ => none
  | fuel + 1, cs =>
    match closeTriple? '\'' before cs with
    | some result => some result
    | none =>
      match cs with
      | [] => none
      | '\n' :: rest => readTripleLiteral ('\n' :: before) fuel rest
      | '\r' :: '\n' :: rest => readTripleLiteral ('\n' :: '\r' :: before) fuel rest
      | c :: rest => if isTextChar c then readTripleLiteral (c :: before) fuel rest else none

/-- The text after an opening delimiter, without a line break in front. -/
def dropFirstNewline (cs : List Char) : List Char :=
  (dropNewline? cs).getD cs

/-- Reads a string on one line, between quotes or apostrophes. -/
def readLineString? : List Char → Option (List Char × List Char)
  | '"' :: rest => readBasic [] rest.length rest
  | '\'' :: rest => readLiteral [] rest
  | _ => none

/-- Reads a string in any form. -/
def readString? (cs : List Char) : Option (List Char × List Char) :=
  match cs with
  | '"' :: '"' :: '"' :: rest =>
    let rest := dropFirstNewline rest
    readTripleBasic [] (rest.length + 1) rest
  | '\'' :: '\'' :: '\'' :: rest =>
    let rest := dropFirstNewline rest
    readTripleLiteral [] (rest.length + 1) rest
  | _ => readLineString? cs

end TrackedComments.Toml

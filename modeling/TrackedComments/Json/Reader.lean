import TrackedComments.Json.Basic

/-!
# Reading JSON

A document is one value with nothing but blanks around it. The reader is strict: no commas at the
end of a list, no control characters in strings, no numbers with leading zeros. Every function
takes the text that is left and gives back what it has read and the text after it.

The fuel bounds the nesting and the number of items. Two units for every character are more than
any document can use up.
-/

namespace TrackedComments.Json

/-- The characters that may stand between the parts of a document. -/
def isBlank (c : Char) : Bool :=
  c == ' ' || c == '\n' || c == '\t' || c == '\r'

/-- The text after the blanks in front. -/
def skipBlanks (cs : List Char) : List Char :=
  cs.dropWhile isBlank

/-- The value of a hexadecimal digit. -/
def hexValue? (c : Char) : Option Nat :=
  if '0' ≤ c ∧ c ≤ '9' then some (c.toNat - '0'.toNat)
  else if 'a' ≤ c ∧ c ≤ 'f' then some (c.toNat - 'a'.toNat + 10)
  else if 'A' ≤ c ∧ c ≤ 'F' then some (c.toNat - 'A'.toNat + 10)
  else none

/-- Reads four hexadecimal digits. -/
def readUnit : List Char → Option (Nat × List Char)
  | a :: b :: c :: d :: rest => do
    let a ← hexValue? a
    let b ← hexValue? b
    let c ← hexValue? c
    let d ← hexValue? d
    some (((a * 16 + b) * 16 + c) * 16 + d, rest)
  | _ => none

/-- Whether a unit is the first half of a surrogate pair. -/
def isHighSurrogate (unit : Nat) : Bool := 0xd800 ≤ unit && unit < 0xdc00

/-- Whether a unit is the second half of a surrogate pair. -/
def isLowSurrogate (unit : Nat) : Bool := 0xdc00 ≤ unit && unit < 0xe000

/-- The character that follows an escaped unit together with the unit that comes first. A half of a
surrogate pair alone is no character. -/
def joinUnits (unit : Nat) (rest : List Char) : Option Char × List Char :=
  if isHighSurrogate unit then
    match rest with
    | '\\' :: 'u' :: more =>
      match readUnit more with
      | some (low, more) =>
        if isLowSurrogate low then
          (some (Char.ofNat (0x10000 + (unit - 0xd800) * 0x400 + (low - 0xdc00))), more)
        else (none, rest)
      | none => (none, rest)
    | _ => (none, rest)
  else if isLowSurrogate unit then (none, rest)
  else (some (Char.ofNat unit), rest)

/-- Reads one character of a string, escaped or not. -/
def readStringChar : List Char → Option (Option Char × List Char)
  | '\\' :: 'u' :: rest => (readUnit rest).map fun (unit, rest) => joinUnits unit rest
  | '\\' :: c :: rest =>
    match c with
    | '"' => some (some '"', rest)
    | '\\' => some (some '\\', rest)
    | '/' => some (some '/', rest)
    | 'b' => some (some '\x08', rest)
    | 'f' => some (some '\x0c', rest)
    | 'n' => some (some '\n', rest)
    | 'r' => some (some '\r', rest)
    | 't' => some (some '\t', rest)
    | _ => none
  | c :: rest => if c.toNat < 0x20 ∨ c = '\\' then none else some (some c, rest)
  | [] => none

/-- Reads the characters of a string up to its closing quote; `before` are those that have been
read, in reverse, unless one of them was no character. -/
def readStringRest (before : Option (List Char)) :
    Nat → List Char → Option (Option String × List Char)
  | 0, _ => none
  | _ + 1, '"' :: rest => some (before.map fun cs => String.ofList cs.reverse, rest)
  | fuel + 1, cs =>
    match readStringChar cs with
    | none => none
    | some (c, rest) =>
      let before := match before, c with
        | some cs, some c => some (c :: cs)
        | _, _ => none
      readStringRest before fuel rest

/-- Reads a string. -/
def readString : List Char → Option (Option String × List Char)
  | '"' :: rest => readStringRest (some []) rest.length rest
  | _ => none

/-- Reads digits, of which there has to be one. -/
def readDigits (cs : List Char) : Option (List Char × List Char) :=
  let digits := cs.takeWhile Char.isDigit
  if digits.isEmpty then none else some (digits, cs.dropWhile Char.isDigit)

/-- Reads the part of a number after the point, if there is a point. -/
def readFraction : List Char → Option (Bool × List Char)
  | '.' :: rest => (readDigits rest).map fun (_, rest) => (true, rest)
  | rest => some (false, rest)

/-- Reads the exponent of a number, if there is one. -/
def readExponent : List Char → Option (Bool × List Char)
  | c :: rest =>
    if c = 'e' ∨ c = 'E' then
      let rest := match rest with
        | '+' :: rest => rest
        | '-' :: rest => rest
        | _ => rest
      (readDigits rest).map fun (_, rest) => (true, rest)
    else some (false, c :: rest)
  | [] => some (false, [])

/-- Reads a number without its sign: its value, if it is written in digits alone. -/
def readUnsigned (cs : List Char) : Option (Option Nat × List Char) := do
  let (digits, rest) ← readDigits cs
  if digits.head? = some '0' ∧ digits.length ≠ 1 then none
  else
    let (fraction, rest) ← readFraction rest
    let (exponent, rest) ← readExponent rest
    some (if fraction || exponent then none else some (Nat.ofDigitChars 10 digits 0), rest)

/-- Reads a number. -/
def readNumber : List Char → Option (Option Nat × List Char)
  | '-' :: rest => (readUnsigned rest).map fun (_, rest) => (none, rest)
  | cs => readUnsigned cs

mutual

/-- Reads a value. -/
def readValue : Nat → List Char → Option (Json × List Char)
  | 0, _ => none
  | fuel + 1, cs =>
    match skipBlanks cs with
    | 'n' :: 'u' :: 'l' :: 'l' :: rest => some (.null, rest)
    | 't' :: 'r' :: 'u' :: 'e' :: rest => some (.bool true, rest)
    | 'f' :: 'a' :: 'l' :: 's' :: 'e' :: rest => some (.bool false, rest)
    | '"' :: rest => (readString ('"' :: rest)).map fun (text, rest) => (.string text, rest)
    | '[' :: rest =>
      match skipBlanks rest with
      | ']' :: rest => some (.array [], rest)
      | rest => readItems [] fuel rest
    | '\x7b' :: rest =>
      match skipBlanks rest with
      | '\x7d' :: rest => some (.object [], rest)
      | rest => readMembers [] fuel rest
    | rest => (readNumber rest).map fun (value, rest) => (.number value, rest)

/-- Reads the items of an array up to its closing bracket; `before` are those that have been read,
in reverse. -/
def readItems (before : List Json) : Nat → List Char → Option (Json × List Char)
  | 0, _ => none
  | fuel + 1, cs =>
    match readValue fuel cs with
    | none => none
    | some (item, rest) =>
      match skipBlanks rest with
      | ',' :: rest => readItems (item :: before) fuel rest
      | ']' :: rest => some (.array (item :: before).reverse, rest)
      | _ => none

/-- Reads the members of an object up to its closing bracket; `before` are those that have been
read, in reverse. -/
def readMembers (before : List (Option String × Json)) :
    Nat → List Char → Option (Json × List Char)
  | 0, _ => none
  | fuel + 1, cs =>
    match readString (skipBlanks cs) with
    | none => none
    | some (name, rest) =>
      match skipBlanks rest with
      | ':' :: rest =>
        match readValue fuel rest with
        | none => none
        | some (value, rest) =>
          match skipBlanks rest with
          | ',' :: rest => readMembers ((name, value) :: before) fuel rest
          | '\x7d' :: rest => some (.object ((name, value) :: before).reverse, rest)
          | _ => none
      | _ => none

end

/-- Reads a document. -/
def ofChars? (cs : List Char) : Option Json :=
  match readValue (2 * cs.length + 2) cs with
  | some (value, rest) => if (skipBlanks rest).isEmpty then some value else none
  | none => none

end TrackedComments.Json

import TrackedComments.Toml.Text

/-!
# Writing TOML strings

A string is written in the first of four forms that needs no escapes apart from tabs, and in a form
with escapes if there is none. Only strings with line breaks are written over several lines by
choice; there the text begins on a line of its own.
-/

namespace TrackedComments.Toml

/-- Whether a character is a control character other than a tab and a line feed. -/
def isRareControl (c : Char) : Bool :=
  (c.toNat < 0x20 || c.toNat == 0x7f) && c != '\t' && c != '\n'

/-- Whether a text holds a run of three of a character. -/
def hasTriple (c : Char) : List Char → Bool
  | [] => false
  | d :: rest => (d :: rest).take 3 == List.replicate 3 c || hasTriple c rest

/-- The forms of a string. -/
inductive StringForm where
  | basic
  | literal
  | tripleBasic
  | tripleLiteral
  deriving DecidableEq, Repr, Inhabited

/-- The form that a text is written in. -/
def StringForm.choose (cs : List Char) : StringForm :=
  let hasLineBreak := cs.contains '\n'
  let hasControl := cs.any isRareControl
  if !hasControl && !hasLineBreak && !cs.contains '\\' && !cs.contains '"' then .basic
  else if !hasControl && !hasLineBreak && !cs.contains '\'' then .literal
  else if !hasControl && !cs.contains '\\' && !hasTriple '"' cs then .tripleBasic
  else if !hasControl && !hasTriple '\'' cs then .tripleLiteral
  else if hasLineBreak then .tripleBasic
  else .basic

/-- A hexadecimal digit in upper case. -/
def hexDigit (n : Nat) : Char :=
  (Nat.digitChar n).toUpper

/-- A character as it is written in a form with escapes, line feeds and quotes apart. -/
def escapeChar (c : Char) : List Char :=
  if c = '\x08' then ['\\', 'b']
  else if c = '\t' then ['\\', 't']
  else if c = '\x0c' then ['\\', 'f']
  else if c = '\r' then ['\\', 'r']
  else if c = '\\' then ['\\', '\\']
  else if isRareControl c then
    ['\\', 'u', '0', '0', hexDigit (c.toNat / 16), hexDigit (c.toNat % 16)]
  else [c]

/-- The characters of a string on one line. -/
def escapeLine (c : Char) : List Char :=
  if c = '\n' then ['\\', 'n'] else if c = '"' then ['\\', '"'] else escapeChar c

/-- The characters of a string over several lines, after a number of quotes in a row. The third
quote of a run is escaped. -/
def escapeLines (quotes : Nat) : List Char → List Char
  | [] => []
  | c :: rest =>
    if c = '"' then
      if quotes = 2 then '\\' :: '"' :: escapeLines 0 rest
      else '"' :: escapeLines (quotes + 1) rest
    else (if c = '\n' then ['\n'] else escapeChar c) ++ escapeLines 0 rest

/-- The line break after an opening delimiter, if the text has line breaks. -/
def openingBreak (cs : List Char) : List Char :=
  if cs.contains '\n' then ['\n'] else []

/-- A text as it is written in a form. -/
def writeIn (form : StringForm) (cs : List Char) : List Char :=
  match form with
  | .basic => '"' :: cs.flatMap escapeLine ++ ['"']
  | .literal => '\'' :: cs ++ ['\'']
  | .tripleBasic => ['"', '"', '"'] ++ openingBreak cs ++ escapeLines 0 cs ++ ['"', '"', '"']
  | .tripleLiteral => ['\'', '\'', '\''] ++ openingBreak cs ++ cs ++ ['\'', '\'', '\'']

/-- A text as it is written. -/
def writeString (s : String) : List Char :=
  writeIn (.choose s.toList) s.toList

end TrackedComments.Toml

import TrackedComments.Pattern.Reader
import TrackedComments.Pattern.Search
import TrackedComments.Record
import TrackedComments.Text.Lines

/-!
# Scan patterns

The pattern that recognises annotated comments has two groups: the first one matches what the
comment says, the second one the inside of its metadata block. It is applied to one line at a
time, after the markers at the end of the line have been taken off.
-/

namespace TrackedComments

/-- Why a text is no scan pattern. -/
inductive PatternFault where
  /-- The notation cannot be read. -/
  | syntaxFault (fault : Pattern.SyntaxFault)
  /-- The pattern has the wrong number of groups. -/
  | groupCount (found : Nat)
  /-- Any other reason, in words. -/
  | described (reason : String)
  deriving DecidableEq, Repr, Inhabited

/-- How many groups a scan pattern has. -/
def requiredGroups : Nat := 2

/-- The fault in words. -/
def PatternFault.message : PatternFault → String
  | syntaxFault fault => fault.message
  | groupCount found =>
    "expected " ++ toString requiredGroups ++ " capture groups, found " ++ toString found
  | described reason => reason

/-- A pattern that recognises annotated comments. -/
structure ScanPattern where
  source : String
  program : Pattern.Program
  deriving Inhabited

namespace ScanPattern

/-- Reads a scan pattern. -/
def ofString (source : String) : Except PatternFault ScanPattern :=
  match Pattern.readRegex source.toList with
  | .error fault => .error (.syntaxFault fault)
  | .ok (regex, groups) =>
    if groups = requiredGroups then .ok ⟨source, .ofRegex regex groups⟩
    else .error (.groupCount groups)

/-- The pattern that is used unless another one is configured: `ERROR:` in a line comment, with an
optional block in brackets at the end. -/
def defaultSource : String := "//\\s*ERROR:\\s*(.+?)(?:\\[(.+?)\\])?$"

/-- What the groups of the pattern match in a text. -/
def captures (p : ScanPattern) (text : List Char) :
    Option (Option (List Char) × Option (List Char)) :=
  (p.program.search text.toArray).map fun slots => (slots.group text 1, slots.group text 2)

end ScanPattern

/-- What a line says that the pattern has recognised. -/
structure LineMatch where
  message : String
  metadata : Metadata
  issueNumber : Option UInt64
  deriving DecidableEq, Inhabited

/-- The line without a carriage return at its end. -/
def dropCarriageReturn (line : List Char) : List Char :=
  if line.getLast? = some '\r' then line.dropLast else line

/-- Applies a pattern to a line. Markers at the end of the line are taken off before the pattern
looks at it; the number is read from the line as it stands. -/
def ScanPattern.scanLine (p : ScanPattern) (line : List Char) : Option LineMatch :=
  let line := dropCarriageReturn line
  (p.captures (Marker.stripTrailing line)).map fun (message, block) =>
    { message := String.ofList (Chars.trim (message.getD []))
      metadata := block.elim .empty Metadata.read
      issueNumber := Marker.find? line }

/-- The record of a line that the pattern recognises. Lines beyond the range of line numbers have no
record. -/
def ScanPattern.scanNumbered (p : ScanPattern) (file : String) (index : Nat) (line : List Char) :
    Option CommentRecord :=
  match p.scanLine line with
  | none => none
  | some found =>
    if index + 1 < UInt32.size then
      some
        { file
          line := .ofNat (index + 1)
          text := String.ofList (Chars.trim (dropCarriageReturn line))
          message := found.message
          metadata := found.metadata
          issueNumber := found.issueNumber }
    else none

/-- The records of a file with a content, in the order of its lines. -/
def ScanPattern.scanContent (p : ScanPattern) (file content : String) : List CommentRecord :=
  (lines content.toList).zipIdx.filterMap fun (line, index) => p.scanNumbered file index line.body

end TrackedComments

/-!
# Highlighted text

On a terminal, parts of the output are set off by colours and weights: a sequence of codes begins
the part, and a reset ends it. Where the text of a part holds a reset of its own, the codes are
repeated after it.
-/

namespace TrackedComments.CommandLine

/-- A part of the output that is set off. -/
inductive Highlight where
  | failure
  | success
  | warning
  | information
  | fileName
  | directory
  | issueOfComment
  | newMarker
  | suggestion
  | address
  | remark
  deriving DecidableEq, Repr, Inhabited

/-- The codes of a part: 1 is bold, 2 dimmed, 4 underlined, and 31, 32, 33 and 36 are red, green,
yellow and cyan. -/
def Highlight.codes : Highlight → String
  | failure => "1;31"
  | success => "1;32"
  | warning => "33"
  | information => "36"
  | fileName => "1"
  | directory => "2"
  | issueOfComment => "32"
  | newMarker => "36"
  | suggestion => "1"
  | address => "4"
  | remark => "2"

/-- The sequence that ends a part. -/
def resetSequence : String := "\x1b[0m"

/-- A part of the output, with the sequences around it if they are wanted. -/
def Highlight.apply (h : Highlight) (colored : Bool) (text : String) : String :=
  if colored then
    let start := "\x1b[" ++ h.codes ++ "m"
    start ++ text.replace resetSequence (resetSequence ++ start) ++ resetSequence
  else text

end TrackedComments.CommandLine

/-!
# Lines of a text

A text is a sequence of lines. Each line but the last ends in a line feed, alone or after one
carriage return; a final line feed starts no further line. Scanning and writing back both go through
`lines`, so that they number the lines alike.

## Main results

* `lines_flatMap_toChars`: the lines with their endings put together are the text.
-/

namespace TrackedComments

/-- How a line ends. -/
inductive LineEnding where
  /-- The text ends here. -/
  | none
  /-- A line feed. -/
  | lf
  /-- A carriage return and a line feed. -/
  | crlf
  deriving DecidableEq, Repr, Inhabited

/-- The characters that end the line. -/
def LineEnding.toChars : LineEnding → List Char
  | .none => []
  | .lf => ['\n']
  | .crlf => ['\r', '\n']

/-- A line of a text: what it says, and how it ends. -/
structure Line where
  body : List Char
  ending : LineEnding
  deriving DecidableEq, Repr, Inhabited

/-- The characters of the line with its ending. -/
def Line.toChars (l : Line) : List Char :=
  l.body ++ l.ending.toChars

/-- The lines of the text that begins with `c` and goes on with the lines `rest`. A carriage return
belongs to the ending exactly if the line feed follows at once, that is if the next line is an
unended blank one with a line feed of its own. -/
def Line.cons (c : Char) (rest : List Line) : List Line :=
  if c = '\n' then ⟨[], .lf⟩ :: rest
  else match rest with
    | [] => [⟨[c], .none⟩]
    | ⟨body, ending⟩ :: more =>
      if c = '\r' ∧ body = [] ∧ ending = .lf then ⟨[], .crlf⟩ :: more
      else ⟨c :: body, ending⟩ :: more

/-- The lines of a text. -/
def lines (cs : List Char) : List Line :=
  cs.foldr Line.cons []

@[simp] theorem lines_nil : lines [] = [] := rfl

theorem lines_cons (c : Char) (cs : List Char) : lines (c :: cs) = Line.cons c (lines cs) := rfl

/-- Lines with a character in front are written as that character and the lines. -/
theorem Line.flatMap_toChars_cons (c : Char) (rest : List Line) :
    (Line.cons c rest).flatMap Line.toChars = c :: rest.flatMap Line.toChars := by
  unfold Line.cons
  split
  · simp_all [Line.toChars, LineEnding.toChars]
  · split
    · simp [Line.toChars, LineEnding.toChars]
    · split
      · simp_all [Line.toChars, LineEnding.toChars]
      · simp [Line.toChars]

/-- The lines with their endings put together are the text. -/
theorem lines_flatMap_toChars (cs : List Char) : (lines cs).flatMap Line.toChars = cs := by
  induction cs with
  | nil => rfl
  | cons c cs ih => rw [lines_cons, Line.flatMap_toChars_cons, ih]

end TrackedComments

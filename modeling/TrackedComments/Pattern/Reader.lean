import TrackedComments.Pattern.Class
import TrackedComments.Pattern.Program

/-!
# Reading the notation of patterns

The notation is read from left to right into a regular expression. Groups that are still open are
kept on a stack, with the alternatives and the sequence that they interrupt. Flags set inside a
group hold up to its end, across alternatives.
-/

namespace TrackedComments.Pattern

/-- A part of a pattern that has been read. -/
structure Piece where
  regex : Regex
  /-- About how much room its instructions take. -/
  weight : Nat := 1
  /-- The greatest index of a group in it. -/
  groups : Nat := 0
  /-- How deep its notation nests. -/
  height : Nat := 0
  /-- Whether a repetition may follow. -/
  repeatable : Bool := true
  deriving Inhabited

/-- How deep the notation may nest. -/
def maxHeight : Nat := 250

/-- How much room the instructions of a pattern may take. -/
def maxWeight : Nat := 327680

/-- A part that matches one character of a set. -/
def Piece.ofSet (s : CharSet) (height : Nat) : Piece :=
  { regex := .set s, height, weight := if isAsciiSet s then 1 else s.ranges.length }

/-- Pieces one after the other, the last one first. -/
def Piece.sequence : List Piece → Piece
  | [] => { regex := .empty }
  | [p] => p
  | last :: before =>
    let regex := before.foldl (fun after p => Regex.seq p.regex after) last.regex
    let all := last :: before
    { regex
      weight := (all.map weight).foldl Nat.add 0
      groups := (all.map groups).foldl Nat.max 0
      height := (all.map height).foldl Nat.max 0 + 1 }

/-- Pieces to choose from, the last one first. -/
def Piece.choice : List Piece → Piece
  | [] => { regex := .empty }
  | [p] => p
  | last :: before =>
    let regex := before.foldl (fun after p => Regex.alt p.regex after) last.regex
    let all := last :: before
    { regex
      weight := (all.map weight).foldl Nat.add 0 + before.length
      groups := (all.map groups).foldl Nat.max 0
      height := (all.map height).foldl Nat.max 0 + 1 }

/-- A piece repeated. One that would take too much room is not spelled out, as it is refused in the
end. A piece that is repeated no time takes its groups with it. -/
def Piece.repeated (greedy : Bool) (min : Nat) (max : Option Nat) (p : Piece) : Piece :=
  if max = some 0 then { regex := .empty, height := p.height + 1 }
  else
    let turns := if p.regex.isZeroWidth then 1 else Nat.max 1 (max.getD min)
    let weight := (p.weight + 1) * turns
    { regex := if weight ≤ maxWeight then p.regex.repeated greedy min max else .empty
      weight
      groups := p.groups
      height := p.height + 1 }

/-- A group that is still open, with what it interrupts. -/
structure OpenGroup where
  /-- The flags to return to. -/
  flags : Flags
  /-- The index under which it records its match, if it does. -/
  index : Option Nat
  alternatives : List Piece
  sequence : List Piece
  deriving Inhabited

/-- How far the reading of a pattern has come. -/
structure Progress where
  flags : Flags := {}
  /-- How many groups with an index have been opened. -/
  groups : Nat := 0
  names : List (List Char) := []
  opened : List OpenGroup := []
  /-- The finished alternatives of the current group, the last one first. -/
  alternatives : List Piece := []
  /-- The current sequence, the last piece first. -/
  sequence : List Piece := []
  deriving Inhabited

namespace Progress

/-- Adds a piece to the current sequence. -/
def push (st : Progress) (p : Piece) : Progress :=
  { st with sequence := p :: st.sequence }

/-- What the current group has matched so far. -/
def current (st : Progress) : Piece :=
  .choice (.sequence st.sequence :: st.alternatives)

/-- Starts a further alternative. -/
def startAlternative (st : Progress) : Progress :=
  { st with alternatives := .sequence st.sequence :: st.alternatives, sequence := [] }

/-- Opens a group, whose flags hold inside it. -/
def openGroup (st : Progress) (index : Option Nat) (flags : Flags) : Progress :=
  { st with
    flags
    opened := ⟨st.flags, index, st.alternatives, st.sequence⟩ :: st.opened
    alternatives := []
    sequence := [] }

/-- Opens the next group with an index. -/
def openIndexed (st : Progress) : Progress :=
  { (st.openGroup (some (st.groups + 1)) st.flags) with groups := st.groups + 1 }

/-- Closes the innermost group. -/
def closeGroup (st : Progress) : Except SyntaxFault Progress :=
  match st.opened with
  | [] => .error .unopenedGroup
  | g :: opened =>
    let body := st.current
    let closed : Piece :=
      match g.index with
      | none => { body with height := body.height + 1, repeatable := true }
      | some i =>
        { regex := .group i body.regex
          weight := body.weight + 2
          groups := Nat.max i body.groups
          height := body.height + 1 }
    .ok
      { st with
        flags := g.flags
        opened
        alternatives := g.alternatives
        sequence := closed :: g.sequence }

/-- Repeats the last piece of the current sequence. -/
def repeatLast (st : Progress) (lazily : Bool) (min : Nat) (max : Option Nat) :
    Except SyntaxFault Progress :=
  match st.sequence with
  | [] => .error .missingOperand
  | p :: rest =>
    if p.repeatable then
      .ok { st with sequence := p.repeated (lazily == st.flags.swapGreed) min max :: rest }
    else .error .missingOperand

/-- Whether a repetition may follow. -/
def hasOperand (st : Progress) : Bool :=
  st.sequence.head?.any (·.repeatable)

end Progress

/-- Reads a decimal number with blanks around it. -/
def Flags.readDecimal (f : Flags) (cs : List Char) : Except SyntaxFault (Nat × List Char) :=
  let text := f.skip (Chars.trimStart cs)
  let isPart (c : Char) := c.isDigit || (f.verbose && isSpace c)
  let digits := (text.takeWhile isPart).filter Char.isDigit
  let value := Nat.ofDigitChars 10 digits 0
  if digits.isEmpty || UInt32.size ≤ value then .error .badCount
  else .ok (value, f.skip (Chars.trimStart (text.dropWhile isPart)))

/-- Reads a mark that turns the preference of a repetition around. -/
def readLazy : List Char → Bool × List Char
  | '?' :: rest => (true, rest)
  | cs => (false, cs)

/-- Reads the counts of a repetition after its opening brace. -/
def Progress.readCount (st : Progress) (cs : List Char) :
    Except SyntaxFault (Progress × List Char) := do
  if !st.hasOperand then throw .missingOperand
  let f := st.flags
  let (min, rest) ← f.readDecimal (f.skip cs)
  let (max, rest) ←
    match rest with
    | ',' :: rest =>
      match f.skip rest with
      | '}' :: rest => .ok (none, '}' :: rest)
      | rest => do
        let (max, rest) ← f.readDecimal rest
        .ok (some max, rest)
    | rest => .ok (some min, rest)
  match rest with
  | '}' :: rest =>
    let (lazily, rest) := readLazy (f.skip rest)
    if max.any (· < min) then throw .badCount
    let st ← st.repeatLast lazily min max
    .ok (st, rest)
  | _ => .error .badCount

/-- Whether a character can stand in the name of a group. -/
def isNameChar (first : Bool) (c : Char) : Bool :=
  let alphabetic := c.isAlpha || (c.toNat ≥ 0x80 && (Unicode.binarySet "Alphabetic").contains c)
  let numeric :=
    c.isDigit || (c.toNat ≥ 0x80 && (Unicode.categoriesNamed ["Nd", "Nl", "No"]).contains c)
  c == '_' || alphabetic || (!first && (numeric || c == '.' || c == '[' || c == ']'))

/-- Opens a group with a name. -/
def Progress.openNamed (st : Progress) (cs : List Char) :
    Except SyntaxFault (Progress × List Char) :=
  let name := cs.takeWhile (· != '>')
  match cs.dropWhile (· != '>'), name with
  | [], _ => .error .badGroupName
  | _, [] => .error .badGroupName
  | _ :: rest, first :: others =>
    if !(isNameChar true first && others.all (isNameChar false)) then .error .badGroupName
    else if st.names.contains name then .error .repeatedGroupName
    else .ok ({ st.openIndexed with names := name :: st.names }, rest)

/-- Reads flags up to a colon or a closing parenthesis, which is left in place. No flag may be set
twice, and a hyphen, after which flags are switched off, may stand once and not at the end. -/
def Flags.readFlags (f : Flags) (seen : List Char) :
    List Char → Except SyntaxFault (Flags × List Char × List Char)
  | [] => .error .badFlags
  | c :: rest =>
    if c = ':' ∨ c = ')' then
      if seen.head? = some '-' then .error .badFlags else .ok (f, seen, c :: rest)
    else if seen.contains c then .error .badFlags
    else if c = '-' then f.readFlags (c :: seen) rest
    else match f.set? c (!seen.contains '-') with
      | none => .error .badFlags
      | some f => f.readFlags (c :: seen) rest

/-- Reads what stands after an opening parenthesis. -/
def Progress.readGroup (st : Progress) (cs : List Char) :
    Except SyntaxFault (Progress × List Char) :=
  match st.flags.skip cs with
  | '?' :: '=' :: _ => .error .lookAround
  | '?' :: '!' :: _ => .error .lookAround
  | '?' :: '<' :: '=' :: _ => .error .lookAround
  | '?' :: '<' :: '!' :: _ => .error .lookAround
  | '?' :: 'P' :: '<' :: rest => st.openNamed rest
  | '?' :: '<' :: rest => st.openNamed rest
  | '?' :: rest => do
    let (flags, seen, rest) ← st.flags.readFlags [] rest
    match rest with
    | ')' :: rest =>
      if seen.isEmpty then .error .missingOperand
      else .ok ({ st with flags }.push { regex := .empty, repeatable := false }, rest)
    | _ :: rest => .ok (st.openGroup none flags, rest)
    | [] => .error .badFlags
  | rest => .ok (st.openIndexed, rest)

/-- The characters that the dot matches. -/
def Flags.dot (f : Flags) : Except SyntaxFault CharSet :=
  if !f.unicode then .error .matchesInvalidText
  else if f.dotAll then .ok .univ
  else if f.crlf then .ok ⟨[(0, 0x9), (0xb, 0xc), (0xe, CharSet.maxCodePoint)]⟩
  else .ok ⟨[(0, 0x9), (0xb, CharSet.maxCodePoint)]⟩

/-- The piece that a primitive stands for. -/
def Flags.piece (f : Flags) : Primitive → Except SyntaxFault Piece
  | .char c byteEscape =>
    if !f.unicode && byteEscape && c.toNat ≥ 0x80 then .error .matchesInvalidText
    else .ok (.ofSet (f.fold (.singleton c)) 0)
  | .set s => .ok (.ofSet s 0)
  | .look a => .ok { regex := .look a }

/-- Reads one element of the notation, which takes a character at least. -/
def Progress.readOne (st : Progress) (c : Char) (rest : List Char) :
    Except SyntaxFault (Progress × List Char) :=
  let f := st.flags
  let quantify (min : Nat) (max : Option Nat) := do
    let (lazily, rest) := readLazy rest
    let st ← st.repeatLast lazily min max
    .ok (st, rest)
  match c with
  | '(' => st.readGroup rest
  | ')' => do
    let st ← st.closeGroup
    .ok (st, rest)
  | '|' => .ok (st.startAlternative, rest)
  | '[' => do
    let (s, height, rest) ← f.readClass rest
    .ok (st.push (.ofSet s height), rest)
  | '?' => quantify 0 (some 1)
  | '*' => quantify 0 none
  | '+' => quantify 1 none
  | '{' => st.readCount rest
  | '.' => do
    let s ← f.dot
    .ok (st.push (.ofSet s 0), rest)
  | '^' =>
    .ok (st.push { regex := .look (if f.multiLine then .lineStart f.crlf else .textStart) }, rest)
  | '$' =>
    .ok (st.push { regex := .look (if f.multiLine then .lineEnd f.crlf else .textEnd) }, rest)
  | '\\' => do
    let (primitive, rest) ← f.readEscape rest
    let p ← f.piece primitive
    .ok (st.push p, rest)
  | _ => do
    let p ← f.piece (.char c false)
    .ok (st.push p, rest)

/-- Reads the notation to its end. Every turn takes a character at least, so its length bounds the
turns. -/
def Progress.read (st : Progress) : (fuel : Nat) → List Char → Except SyntaxFault Progress
  | 0, _ => .ok st
  | fuel + 1, cs =>
    match st.flags.skip cs with
    | [] => .ok st
    | c :: rest => do
      let (st, rest) ← st.readOne c rest
      st.read fuel rest

/-- The regular expression that a notation stands for, and the greatest index of its groups. -/
def readRegex (source : List Char) : Except SyntaxFault (Regex × Nat) := do
  let st ← Progress.read {} (source.length + 1) source
  if !st.opened.isEmpty then throw .unclosedGroup
  let whole := st.current
  if whole.height > maxHeight then throw .nestedTooDeep
  if whole.weight > maxWeight then throw .tooLarge
  .ok (whole.regex, whole.groups)

end TrackedComments.Pattern

import TrackedComments.Glob.Basic
import TrackedComments.Text.Space

/-!
# Reading the notation of globs

The notation is read from left to right into items, which are tokens or groups of alternatives.
Alternatives nest; the ones still open are kept on a stack.
-/

namespace TrackedComments.Glob

/-- A fault in the notation of a glob. -/
inductive SyntaxFault where
  | unclosedAlternates
  | unopenedAlternates
  | unclosedClass
  | invalidRange (first last : Char)
  | danglingEscape
  deriving DecidableEq, Repr, Inhabited

/-- The fault in words. -/
def SyntaxFault.message : SyntaxFault → String
  | unclosedAlternates =>
    "unclosed alternate group; missing '\x7d' (maybe escape '\x7b' with '[\x7b]'?)"
  | unopenedAlternates =>
    "unopened alternate group; missing '\x7b' (maybe escape '\x7d' with '[\x7d]'?)"
  | unclosedClass => "unclosed character class; missing ']'"
  | invalidRange first last =>
    "invalid range; '" ++ first.toString ++ "' > '" ++ last.toString ++ "'"
  | danglingEscape => "dangling '\\'"

/-- An element of a glob. -/
inductive Item where
  | token (t : GlobToken)
  | alternates (g : Glob)
  deriving DecidableEq, Repr, Inhabited

/-- The glob that an item stands for. -/
def Item.toGlob : Item → Glob
  | token t => .token t
  | alternates g => g

/-- The glob of items one after the other. Groups without alternatives are left out. -/
def ofItems (items : List Item) : Glob :=
  sequence ((items.map Item.toGlob).filter (· != .empty))

/-- The group of alternatives. Empty alternatives do not count. -/
def Item.ofAlternatives (branches : List (List Item)) : Item :=
  .alternates (choice ((branches.map ofItems).filter (· != .empty)))

/-- The items for a character that stands for itself. -/
def literal (c : Char) : List Item :=
  (String.utf8EncodeChar c).map fun b => .token (.byte b)

/-- A group of alternatives that is still open. -/
structure OpenAlternates where
  /-- The items before it, the last one first. -/
  before : List Item
  /-- Its finished alternatives, the last one first. -/
  branches : List (List Item)
  deriving Inhabited

/-- How far the reading of a glob has come. -/
structure Progress where
  opened : List OpenAlternates := []
  /-- The items of the current alternative, the last one first. -/
  items : List Item := []
  /-- The character before the next one. -/
  previous : Option Char := none
  deriving Inhabited

/-- Adds items to the current alternative. -/
def Progress.push (st : Progress) (items : List Item) : Progress :=
  { st with items := items.reverse ++ st.items }

/-- The bytes that a class gives for its ranges of characters. A character of several bytes stands
for each of them, and a range goes from the last byte of one to the first byte of the other. -/
def classRanges (ranges : List (Char × Char)) : List (UInt8 × UInt8) :=
  ranges.flatMap fun (first, last) =>
    let one (b : UInt8) := (b, b)
    let lo := String.utf8EncodeChar first
    if first = last then lo.map one
    else
      let hi := String.utf8EncodeChar last
      lo.dropLast.map one ++ [(lo.getLastD 0, hi.headD 0)] ++ hi.tail.map one

/-- Reads the members of a class up to its closing bracket. A closing bracket in front stands for
itself, and so does a hyphen in front or at the end. -/
def readMembers (ranges : List (Char × Char)) (isFirst inRange : Bool) :
    List Char → Except SyntaxFault (List (Char × Char) × List Char)
  | [] => .error .unclosedClass
  | c :: rest =>
    let addLast (last : Char) : Except SyntaxFault (List (Char × Char)) :=
      match ranges.getLast? with
      | none => .ok [(last, last)]
      | some (first, _) =>
        if first > last then .error (.invalidRange first last)
        else .ok (ranges.dropLast ++ [(first, last)])
    if c = ']' && !isFirst then
      .ok (if inRange then ranges ++ [('-', '-')] else ranges, rest)
    else if c = '-' then
      if isFirst then readMembers (ranges ++ [('-', '-')]) false inRange rest
      else if inRange then do
        let ranges ← addLast '-'
        readMembers ranges false false rest
      else readMembers ranges false true rest
    else if inRange then do
      let ranges ← addLast c
      readMembers ranges false false rest
    else readMembers (ranges ++ [(c, c)]) false false rest

/-- Reads a class after its opening bracket. -/
def readClass (cs : List Char) : Except SyntaxFault (GlobToken × List Char) := do
  let (negated, cs) :=
    match cs with
    | '!' :: rest => (true, rest)
    | '^' :: rest => (true, rest)
    | _ => (false, cs)
  let (ranges, rest) ← readMembers [] true false cs
  .ok (.oneOf negated (classRanges ranges), rest)

/-- Reads what stands after two asterisks. They stand for directories if they fill the space between
separators or between the borders of the glob or the alternative. -/
def Progress.readTwoStars (st : Progress) (cs : List Char) : Progress × List Char :=
  let inAlternates := !st.opened.isEmpty
  let plain : Progress := st.push [.token .star, .token .star]
  let starred (st : Progress) : Progress := { st with previous := some '*' }
  match st.items with
  | [] =>
    match cs with
    | [] => (starred (st.push [.token .leadingDirectories]), [])
    | '/' :: rest =>
      ({ st.push [.token .leadingDirectories] with previous := some '/' }, rest)
    | _ => (starred plain, cs)
  | last :: before =>
    let afterBorder :=
      st.previous == some '/' ||
        (inAlternates && (st.previous == some ',' || st.previous == some '{'))
    if !afterBorder then (starred plain, cs)
    else
      let finish (isSuffix : Bool) (st : Progress) : Progress :=
        let keep := last = .token .leadingDirectories || last = .token .everythingBelow
        let items :=
          if keep then last :: before
          else .token (if isSuffix then .everythingBelow else .innerDirectories) :: before
        { st with items }
      match cs with
      | [] => (finish true (starred st), [])
      | '/' :: rest => (finish false { st with previous := some '/' }, rest)
      | c :: _ =>
        if inAlternates && (c == ',' || c == '}') then (finish true (starred st), cs)
        else (starred plain, cs)

/-- Reads the notation to its end. Every turn takes a character at least, so its length bounds the
turns. With `allowUnclosedClass` a bracket that is not closed stands for itself. -/
def Progress.read (allowUnclosedClass : Bool) (st : Progress) :
    (fuel : Nat) → List Char → Except SyntaxFault (List Item)
  | 0, _ => .error .unclosedAlternates
  | fuel + 1, cs =>
    match cs with
    | [] => if st.opened.isEmpty then .ok st.items.reverse else .error .unclosedAlternates
    | c :: rest =>
      let st' : Progress := { st with previous := some c }
      match c with
      | '?' => (st'.push [.token .anyByte]).read allowUnclosedClass fuel rest
      | '*' =>
        match rest with
        | '*' :: rest =>
          let (st, rest) := st.readTwoStars rest
          st.read allowUnclosedClass fuel rest
        | _ => (st'.push [.token .star]).read allowUnclosedClass fuel rest
      | '[' =>
        match readClass rest with
        | .ok (t, rest') =>
          let st : Progress := { st'.push [.token t] with previous := some ']' }
          st.read allowUnclosedClass fuel rest'
        | .error .unclosedClass =>
          if allowUnclosedClass then (st'.push (literal '[')).read allowUnclosedClass fuel rest
          else .error .unclosedClass
        | .error e => .error e
      | '{' =>
        { st' with opened := ⟨st.items, []⟩ :: st.opened, items := [] }.read
          allowUnclosedClass fuel rest
      | '}' =>
        match st.opened with
        | [] => .error .unopenedAlternates
        | g :: opened =>
          let branches := (st.items.reverse :: g.branches).reverse
          { st' with opened, items := .ofAlternatives branches :: g.before }.read
            allowUnclosedClass fuel rest
      | ',' =>
        match st.opened with
        | [] => (st'.push (literal ',')).read allowUnclosedClass fuel rest
        | g :: opened =>
          { st' with
            opened := { g with branches := st.items.reverse :: g.branches } :: opened
            items := [] }.read allowUnclosedClass fuel rest
      | '\\' =>
        match rest with
        | [] => .error .danglingEscape
        | d :: rest =>
          let st : Progress := { st'.push (literal d) with previous := some d }
          st.read allowUnclosedClass fuel rest
      | c => (st'.push (literal c)).read allowUnclosedClass fuel rest

/-- The items that a notation stands for. -/
def readItems (allowUnclosedClass : Bool) (source : List Char) : Except SyntaxFault (List Item) :=
  Progress.read allowUnclosedClass {} (source.length + 1) source

end TrackedComments.Glob

import TrackedComments.Pattern.Escape

/-!
# Bracketed classes

A class in brackets lists characters, ranges and other classes. Classes nest, and the operators
`&&`, `--` and `~~` combine what stands to their left with what follows up to the next operator;
they have one precedence.
-/

namespace TrackedComments.Pattern

/-- An operator between classes. -/
inductive ClassOperator where
  | intersection
  | difference
  | symmetricDifference
  deriving DecidableEq, Repr, Inhabited

/-- The items read since the last opening bracket or operator. -/
structure ClassItems where
  chars : CharSet := .empty
  count : Nat := 0
  height : Nat := 0
  deriving Inhabited

/-- One more item, whose notation nests to a height. -/
def ClassItems.add (items : ClassItems) (chars : CharSet) (height : Nat) : ClassItems :=
  ⟨items.chars.union chars, items.count + 1, Nat.max items.height height⟩

/-- The height of the items taken together. -/
def ClassItems.totalHeight (items : ClassItems) : Nat :=
  if items.count ≤ 1 then items.height else items.height + 1

/-- What an inner class is to be put into once it is closed. -/
inductive ClassFrame where
  /-- The items before an opening bracket. -/
  | opened (negated : Bool) (outer : ClassItems)
  /-- The left operand of an operator. -/
  | operand (operator : ClassOperator) (left : CharSet) (height : Nat)
  deriving Inhabited

/-- Applies a pending operator to the items that follow it. -/
def Flags.applyOperator (f : Flags) (frames : List ClassFrame) (items : ClassItems) :
    List ClassFrame × CharSet × Nat :=
  match frames with
  | .operand operator left height :: rest =>
    let left := f.fold left
    let right := f.fold items.chars
    let chars :=
      match operator with
      | .intersection => left.inter right
      | .difference => left.diff right
      | .symmetricDifference => left.symmDiff right
    (rest, chars, Nat.max height items.totalHeight + 1)
  | _ => (frames, items.chars, items.totalHeight)

/-- Reads the hyphens that stand for themselves at the start of a class. -/
def Flags.readHyphens (f : Flags) (items : ClassItems) :
    (fuel : Nat) → List Char → Except SyntaxFault (ClassItems × List Char)
  | 0, _ => .error .unclosedClass
  | fuel + 1, cs =>
    match f.skip cs with
    | [] => .error .unclosedClass
    | '-' :: rest => f.readHyphens (items.add (.singleton '-') 0) fuel rest
    | rest => .ok (items, rest)

/-- Reads the start of a class after its opening bracket: whether it is negated, and the hyphens or
the closing bracket that stand for themselves in front. -/
def Flags.openClass (f : Flags) (cs : List Char) :
    Except SyntaxFault (Bool × ClassItems × List Char) := do
  let (negated, rest) :=
    match f.skip cs with
    | '^' :: rest => (true, rest)
    | rest => (false, rest)
  let (items, rest) ← f.readHyphens {} (rest.length + 1) rest
  match items.count, rest with
  | 0, ']' :: rest =>
    match f.skip rest with
    | [] => .error .unclosedClass
    | rest => .ok (negated, items.add (.singleton ']') 0, rest)
  | _, _ => .ok (negated, items, rest)

/-- Reads a class such as `[:alpha:]`, if one stands here. -/
def Flags.readNamedClass? (f : Flags) (cs : List Char) :
    Option (Except SyntaxFault CharSet × List Char) :=
  match cs with
  | '[' :: ':' :: rest =>
    let (negated, rest) :=
      match rest with
      | '^' :: rest => (true, rest)
      | _ => (false, rest)
    match rest.dropWhile (· != ':') with
    | ':' :: ']' :: after =>
      (asciiClass? (rest.takeWhile (· != ':'))).map fun s => (f.finishClass negated s, after)
    | _ => none
  | _ => none

/-- Reads one member of a class. -/
def Flags.readClassItem (f : Flags) : List Char → Except SyntaxFault (Primitive × List Char)
  | [] => .error .unclosedClass
  | '\\' :: rest => f.readEscape rest
  | c :: rest => .ok (.char c false, rest)

/-- The character that a member of a class stands for. -/
def Flags.classChar (f : Flags) : Primitive → Except SyntaxFault Char
  | .char c _ => if f.unicode || c.toNat < 0x80 then .ok c else .error .needsUnicode
  | _ => .error .badClassRange

/-- Reads a member of a class or a range of them. A hyphen before the closing bracket or before
another hyphen makes no range. -/
def Flags.readClassRange (f : Flags) (cs : List Char) :
    Except SyntaxFault (CharSet × List Char) := do
  let (first, rest) ← f.readClassItem cs
  let single (rest : List Char) : Except SyntaxFault (CharSet × List Char) :=
    match first with
    | .char .. => do
      let c ← f.classChar first
      .ok (.singleton c, rest)
    | .set s => .ok (s, rest)
    | .look _ => .error .badClassItem
  match f.skip rest with
  | [] => .error .unclosedClass
  | '-' :: after =>
    match f.skip after with
    | [] => .error .unclosedClass
    | ']' :: _ => single ('-' :: after)
    | '-' :: _ => single ('-' :: after)
    | after => do
      let (last, rest) ← f.readClassItem after
      let lo ← f.classChar first
      let hi ← f.classChar last
      if lo ≤ hi then .ok (.range lo.toNat hi.toNat, rest) else .error .badClassRange
  | rest => single rest

/-- Reads a class up to its closing bracket. Every turn takes a character at least, so the length of
the notation bounds the turns. -/
def Flags.readClassFrom (f : Flags) :
    (fuel : Nat) → List ClassFrame → ClassItems → List Char →
      Except SyntaxFault (CharSet × Nat × List Char)
  | 0, _, _, _ => .error .unclosedClass
  | fuel + 1, frames, items, cs =>
    let operator (op : ClassOperator) (rest : List Char) :=
      let (frames, left, height) := f.applyOperator frames items
      f.readClassFrom fuel (.operand op left height :: frames) {} rest
    match f.skip cs with
    | [] => .error .unclosedClass
    | '[' :: rest =>
      match f.readNamedClass? ('[' :: rest) with
      | some (named, rest) => do
        let s ← named
        f.readClassFrom fuel frames (items.add s 0) rest
      | none => do
        let (negated, inner, rest) ← f.openClass rest
        f.readClassFrom fuel (.opened negated items :: frames) inner rest
    | ']' :: rest =>
      match f.applyOperator frames items with
      | (.opened negated outer :: frames, chars, height) => do
        let s ← f.finishClass negated chars
        match frames with
        | [] => .ok (s, height + 1, rest)
        | _ => f.readClassFrom fuel frames (outer.add s (height + 1)) rest
      | _ => .error .unclosedClass
    | '&' :: '&' :: rest => operator .intersection rest
    | '-' :: '-' :: rest => operator .difference rest
    | '~' :: '~' :: rest => operator .symmetricDifference rest
    | rest => do
      let (s, rest) ← f.readClassRange rest
      f.readClassFrom fuel frames (items.add s 0) rest

/-- Reads a class after its opening bracket: its characters and the height of its notation. -/
def Flags.readClass (f : Flags) (cs : List Char) :
    Except SyntaxFault (CharSet × Nat × List Char) := do
  let (negated, items, rest) ← f.openClass cs
  f.readClassFrom (rest.length + 1) [.opened negated {}] items rest

end TrackedComments.Pattern

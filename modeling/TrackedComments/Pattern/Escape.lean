import TrackedComments.Pattern.Flags
import TrackedComments.Pattern.Fault
import TrackedComments.Pattern.Regex
import TrackedComments.Unicode.Case

/-!
# Escapes

What a backslash introduces: a character that stands for itself, a character given by its code
point, a class or a condition. Classes are resolved under the flags in force.
-/

namespace TrackedComments.Pattern

/-- Drops blanks and comments; inside a comment until the end of the line. -/
def skipVerbose (inComment : Bool) : List Char → List Char
  | [] => []
  | c :: cs =>
    if inComment then skipVerbose (c != '\n') cs
    else if isSpace c then skipVerbose false cs
    else if c = '#' then skipVerbose true cs
    else c :: cs

/-- Drops what the flags say is no part of the pattern. -/
def Flags.skip (f : Flags) (cs : List Char) : List Char :=
  if f.verbose then skipVerbose false cs else cs

/-- What an escape or an unescaped character stands for. -/
inductive Primitive where
  /-- A character. `byteEscape` tells the form `\xHH`, which names a byte where Unicode is off. -/
  | char (c : Char) (byteEscape : Bool)
  /-- A class. -/
  | set (chars : CharSet)
  /-- A condition. -/
  | look (condition : Assertion)
  deriving Inhabited

/-- The set with the other case of its letters, as far as the flags ask for it. -/
def Flags.fold (f : Flags) (s : CharSet) : CharSet :=
  if f.ignoreCase then
    if f.unicode then Unicode.foldCase s
    else
      let lower := (s.inter (.range 0x41 0x5a)).ranges.map fun (lo, hi) => (lo + 0x20, hi + 0x20)
      let upper := (s.inter (.range 0x61 0x7a)).ranges.map fun (lo, hi) => (lo - 0x20, hi - 0x20)
      .unions [s, ⟨lower⟩, ⟨upper⟩]
  else s

/-- Whether a set holds ASCII characters only. -/
def isAsciiSet (s : CharSet) : Bool :=
  s.ranges.all fun (_, hi) => hi ≤ 0x7f

/-- Folds a class and takes its complement if it is negated. Where Unicode is off a class stands for
bytes, and one with bytes outside ASCII could match a part of a character. -/
def Flags.finishClass (f : Flags) (negated : Bool) (s : CharSet) : Except SyntaxFault CharSet :=
  let folded := f.fold s
  let result := if negated then folded.compl else folded
  if f.unicode || isAsciiSet result then .ok result else .error .matchesInvalidText

/-- The classes `\d`, `\s` and `\w`, and their complements under the capital letters. -/
def Flags.perlClass (f : Flags) (letter : Char) : Except SyntaxFault CharSet :=
  let base : CharSet :=
    match letter.toLower, f.unicode with
    | 'd', true => Unicode.digit
    | 's', true => Unicode.space
    | 'w', true => Unicode.word
    | 'd', false => .range 0x30 0x39
    | 's', false => ⟨[(0x9, 0xd), (0x20, 0x20)]⟩
    | _, _ => asciiWord
  if letter.isUpper then
    if f.unicode then .ok base.compl else .error .matchesInvalidText
  else .ok base

/-- The classes that go by a name between colons. -/
def asciiClass? (name : List Char) : Option CharSet :=
  match String.ofList name with
  | "alnum" => some ⟨[(0x30, 0x39), (0x41, 0x5a), (0x61, 0x7a)]⟩
  | "alpha" => some ⟨[(0x41, 0x5a), (0x61, 0x7a)]⟩
  | "ascii" => some (.range 0 0x7f)
  | "blank" => some ⟨[(0x9, 0x9), (0x20, 0x20)]⟩
  | "cntrl" => some ⟨[(0, 0x1f), (0x7f, 0x7f)]⟩
  | "digit" => some (.range 0x30 0x39)
  | "graph" => some (.range 0x21 0x7e)
  | "lower" => some (.range 0x61 0x7a)
  | "print" => some (.range 0x20 0x7e)
  | "punct" => some ⟨[(0x21, 0x2f), (0x3a, 0x40), (0x5b, 0x60), (0x7b, 0x7e)]⟩
  | "space" => some ⟨[(0x9, 0xd), (0x20, 0x20)]⟩
  | "upper" => some (.range 0x41 0x5a)
  | "word" => some asciiWord
  | "xdigit" => some ⟨[(0x30, 0x39), (0x41, 0x46), (0x61, 0x66)]⟩
  | _ => none

/-- The value of a hexadecimal digit. -/
def hexDigit? (c : Char) : Option Nat :=
  if c.isDigit then some (c.toNat - 0x30)
  else if 'a' ≤ c ∧ c ≤ 'f' then some (c.toNat - 0x61 + 10)
  else if 'A' ≤ c ∧ c ≤ 'F' then some (c.toNat - 0x41 + 10)
  else none

/-- The character with a code point, if there is one. -/
def charOfCodePoint? (n : Nat) : Option Char :=
  if n.isValidChar then some (Char.ofNat n) else none

/-- Reads a fixed number of hexadecimal digits. -/
def Flags.readHexDigits (f : Flags) :
    (count value : Nat) → List Char → Except SyntaxFault (Nat × List Char)
  | 0, value, cs => .ok (value, f.skip cs)
  | n + 1, value, cs =>
    match f.skip cs with
    | [] => .error .unexpectedEnd
    | c :: rest =>
      match hexDigit? c with
      | none => .error .badHexEscape
      | some d => f.readHexDigits n (value * 16 + d) rest

/-- Reads hexadecimal digits up to a closing brace. -/
def Flags.readHexBrace (f : Flags) (value : Option Nat) :
    List Char → Except SyntaxFault (Nat × List Char)
  | [] => .error .unexpectedEnd
  | c :: rest =>
    if f.verbose && isSpace c then f.readHexBrace value rest
    else if c = '}' then
      match value with
      | none => .error .badHexEscape
      | some n => .ok (n, f.skip rest)
    else match hexDigit? c with
      | none => .error .badHexEscape
      | some d => f.readHexBrace (some (value.getD 0 * 16 + d)) rest

/-- Reads the code point after `\x`, `\u` or `\U`. -/
def Flags.readHex (f : Flags) (digits : Nat) (cs : List Char) :
    Except SyntaxFault (Primitive × List Char) := do
  match f.skip cs with
  | [] => .error .unexpectedEnd
  | c :: rest =>
    let (n, rest, isByte) ←
      if c = '{' then do
        let (n, rest) ← f.readHexBrace none rest
        pure (n, rest, false)
      else do
        let (n, rest) ← f.readHexDigits digits 0 (c :: rest)
        pure (n, rest, digits == 2)
    match charOfCodePoint? n with
    | none => .error .badHexEscape
    | some c => .ok (.char c isByte, rest)

/-- The set that a property in braces asks for, and whether its complement is meant. -/
def propertySet (body : List Char) : Option (CharSet × Bool) :=
  let upTo (isEnd : Char → Bool) := body.takeWhile (!isEnd ·)
  let rec splitNot : List Char → List Char → Option (List Char × List Char)
    | _, [] => none
    | before, '!' :: '=' :: after => some (before.reverse, after)
    | before, c :: after => splitNot (c :: before) after
  match splitNot [] body with
  | some (name, value) => (Unicode.lookupValue? name value).map (·, true)
  | none =>
    let isColon := body.contains ':'
    let sep := if isColon then ':' else '='
    let name := upTo (· == sep)
    if name.length < body.length then
      (Unicode.lookupValue? name (body.drop (name.length + 1))).map (·, false)
    else (Unicode.lookup? body).map (·, false)

/-- Reads the property after `\p` or `\P`. -/
def Flags.readProperty (f : Flags) (negated : Bool) (cs : List Char) :
    Except SyntaxFault (Primitive × List Char) := do
  let finish (found : Option (CharSet × Bool)) (rest : List Char) :
      Except SyntaxFault (Primitive × List Char) :=
    if !f.unicode then .error .needsUnicode
    else match found with
      | none => .error .unknownProperty
      | some (s, flipped) => do
        let s ← f.finishClass (negated != flipped) s
        .ok (.set s, rest)
  match f.skip cs with
  | [] => .error .unexpectedEnd
  | '{' :: rest =>
    let body := rest.takeWhile (· != '}')
    match rest.dropWhile (· != '}') with
    | [] => .error .unexpectedEnd
    | _ :: rest =>
      finish (propertySet (if f.verbose then body.filter (!isSpace ·) else body)) rest
  | '\\' :: _ => .error .unknownProperty
  | c :: rest => finish ((Unicode.lookup? [c]).map (·, false)) (f.skip rest)

/-- Reads what may follow `\b`: the name of a more special condition in braces. A brace that does
not introduce a name is left alone, as it may start a count. -/
def Flags.readWordBoundary (f : Flags) (cs : List Char) :
    Except SyntaxFault (Primitive × List Char) :=
  let ascii := !f.unicode
  let isNameChar (c : Char) := c.isAlpha || c == '-'
  match cs with
  | '{' :: rest =>
    match f.skip rest with
    | [] => .error .badWordBoundary
    | c :: more =>
      if !isNameChar c then .ok (.look (.wordBoundary ascii), cs)
      else
        let text := if f.verbose then (c :: more).filter (!isSpace ·) else c :: more
        let name := text.takeWhile isNameChar
        let tail := f.skip ((c :: more).dropWhile fun d => isNameChar d || (f.verbose && isSpace d))
        match tail with
        | '}' :: rest =>
          match String.ofList name with
          | "start" => .ok (.look (.wordStart ascii), rest)
          | "end" => .ok (.look (.wordEnd ascii), rest)
          | "start-half" => .ok (.look (.wordStartHalf ascii), rest)
          | "end-half" => .ok (.look (.wordEndHalf ascii), rest)
          | _ => .error .badWordBoundary
        | _ => .error .badWordBoundary
  | _ => .ok (.look (.wordBoundary ascii), cs)

/-- Whether an escaped character stands for itself: punctuation and controls of ASCII do. -/
def isPlainEscape (c : Char) : Bool :=
  c.toNat < 0x80 && !c.isAlphanum && c != '<' && c != '>'

/-- Reads what stands after a backslash. -/
def Flags.readEscape (f : Flags) : List Char → Except SyntaxFault (Primitive × List Char)
  | [] => .error .unexpectedEnd
  | c :: rest =>
    if c.isDigit then .error .backReference
    else if isPlainEscape c then .ok (.char c false, rest)
    else match c with
      | 'x' => f.readHex 2 rest
      | 'u' => f.readHex 4 rest
      | 'U' => f.readHex 8 rest
      | 'p' => f.readProperty false rest
      | 'P' => f.readProperty true rest
      | 'd' | 's' | 'w' | 'D' | 'S' | 'W' => do
        let s ← f.perlClass c
        .ok (.set s, rest)
      | 'a' => .ok (.char '\x07' false, rest)
      | 'f' => .ok (.char '\x0c' false, rest)
      | 't' => .ok (.char '\t' false, rest)
      | 'n' => .ok (.char '\n' false, rest)
      | 'r' => .ok (.char '\r' false, rest)
      | 'v' => .ok (.char '\x0b' false, rest)
      | 'A' => .ok (.look .textStart, rest)
      | 'z' => .ok (.look .textEnd, rest)
      | 'b' => f.readWordBoundary rest
      | 'B' => .ok (.look (.notWordBoundary (!f.unicode)), rest)
      | '<' => .ok (.look (.wordStart (!f.unicode)), rest)
      | '>' => .ok (.look (.wordEnd (!f.unicode)), rest)
      | _ => .error .unknownEscape

end TrackedComments.Pattern

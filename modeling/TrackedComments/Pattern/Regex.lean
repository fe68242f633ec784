import TrackedComments.Unicode.Query

/-!
# Regular expressions

What a pattern means once its notation has been read: sets of characters, conditions on a position,
groups, sequence, choice and repetition. Every choice has a preferred side, which is what makes the
match of a pattern unique.

Counted repetitions are spelled out in terms of the others, so that later stages do not meet them.
-/

namespace TrackedComments.Pattern

/-- A condition on the position between two characters. -/
inductive Assertion where
  /-- Nothing stands before. -/
  | textStart
  /-- Nothing stands after. -/
  | textEnd
  /-- A line starts; with `crlf`, a carriage return ends a line too. -/
  | lineStart (crlf : Bool)
  /-- A line ends. -/
  | lineEnd (crlf : Bool)
  /-- A word starts or ends. -/
  | wordBoundary (ascii : Bool)
  /-- No word starts or ends. -/
  | notWordBoundary (ascii : Bool)
  /-- A word starts. -/
  | wordStart (ascii : Bool)
  /-- A word ends. -/
  | wordEnd (ascii : Bool)
  /-- No word goes on from before. -/
  | wordStartHalf (ascii : Bool)
  /-- No word goes on after. -/
  | wordEndHalf (ascii : Bool)
  deriving DecidableEq, Repr, Inhabited

/-- The characters of words in ASCII. -/
def asciiWord : CharSet :=
  ⟨[(0x30, 0x39), (0x41, 0x5a), (0x5f, 0x5f), (0x61, 0x7a)]⟩

/-- Whether a character belongs to a word. -/
def isWord (ascii : Bool) (c : Char) : Bool :=
  if ascii then asciiWord.contains c else Unicode.word.contains c

/-- Whether the condition holds between two neighbours, of which either may be missing. -/
def Assertion.holds (before after : Option Char) : Assertion → Bool
  | textStart => before.isNone
  | textEnd => after.isNone
  | lineStart crlf =>
    before.isNone || before == some '\n' || (crlf && before == some '\r' && after != some '\n')
  | lineEnd crlf =>
    after.isNone || (crlf && after == some '\r') ||
      (after == some '\n' && !(crlf && before == some '\r'))
  | wordBoundary ascii => before.any (isWord ascii) != after.any (isWord ascii)
  | notWordBoundary ascii => before.any (isWord ascii) == after.any (isWord ascii)
  | wordStart ascii => !before.any (isWord ascii) && after.any (isWord ascii)
  | wordEnd ascii => before.any (isWord ascii) && !after.any (isWord ascii)
  | wordStartHalf ascii => !before.any (isWord ascii)
  | wordEndHalf ascii => !after.any (isWord ascii)

/-- A regular expression. A greedy repetition prefers to go on, any other one to stop. -/
inductive Regex where
  /-- Matches without moving. -/
  | empty
  /-- Matches one character of a set. -/
  | set (chars : CharSet)
  /-- Matches without moving where a condition holds. -/
  | look (condition : Assertion)
  /-- Records what the expression inside matches under an index. -/
  | group (index : Nat) (inner : Regex)
  /-- Matches one expression and then the other. -/
  | seq (first second : Regex)
  /-- Matches either expression, the first one by preference. -/
  | alt (first second : Regex)
  /-- Matches the expression or nothing. -/
  | opt (greedy : Bool) (inner : Regex)
  /-- Matches the expression once or more often. -/
  | plus (greedy : Bool) (inner : Regex)
  /-- Matches an expression that cannot match nothing any number of times. -/
  | star (greedy : Bool) (inner : Regex)
  deriving Inhabited

namespace Regex

/-- Whether every match consumes a character. -/
def consumes : Regex → Bool
  | empty => false
  | set _ => true
  | look _ => false
  | group _ r => r.consumes
  | seq r s => r.consumes || s.consumes
  | alt r s => r.consumes && s.consumes
  | opt _ _ => false
  | plus _ r => r.consumes
  | star _ _ => false

/-- Whether no match can consume a character. -/
def isZeroWidth : Regex → Bool
  | empty => true
  | set _ => false
  | look _ => true
  | group _ r => r.isZeroWidth
  | seq r s => r.isZeroWidth && s.isZeroWidth
  | alt r s => r.isZeroWidth && s.isZeroWidth
  | opt _ r => r.isZeroWidth
  | plus _ r => r.isZeroWidth
  | star _ r => r.isZeroWidth

/-- Any number of times. An expression that can match nothing is repeated as an optional `plus`, so
that an empty turn ends the repetition. -/
def many (greedy : Bool) (r : Regex) : Regex :=
  if r.consumes then .star greedy r else .opt greedy (.plus greedy r)

/-- A number of copies, followed by `last`. -/
def copies (r : Regex) (last : Regex) : Nat → Regex
  | 0 => last
  | n + 1 => .seq r (copies r last n)

/-- Up to a number of times: each further copy is tried only after the one before it. -/
def upTo (greedy : Bool) (r : Regex) : Nat → Regex
  | 0 => .empty
  | 1 => .opt greedy r
  | n + 1 => .opt greedy (.seq r (upTo greedy r n))

/-- The expression repeated from `min` to `max` times, without a limit if `max` is missing. What
consumes nothing is repeated once at most. -/
def repeated (greedy : Bool) (min : Nat) (max : Option Nat) (r : Regex) : Regex :=
  let least := if r.isZeroWidth then Nat.min min 1 else min
  let most := if r.isZeroWidth then some (Nat.min (max.getD 1) 1) else max
  match least, most with
  | 0, none => r.many greedy
  | n + 1, none => r.copies (.plus greedy r) n
  | 0, some m => r.upTo greedy m
  | n + 1, some m =>
    if m ≤ n + 1 then r.copies r n else r.copies (r.upTo greedy (m - (n + 1))) (n + 1)

end Regex

end TrackedComments.Pattern

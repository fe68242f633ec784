import TrackedComments.Pattern.Regex

/-!
# Programs

A regular expression is run as a list of instructions that name their successors. The expression at
`start` that is to go on at `next` occupies the addresses from `start` to `start + size`, and is
entered at `start`.

## Main results

* `Regex.length_emit`: the code of an expression is as long as its size says.
-/

namespace TrackedComments.Pattern

/-- An instruction. -/
inductive Instruction where
  /-- Consumes one character of the set. -/
  | char (chars : CharSet) (next : Nat)
  /-- Goes on where the condition holds. -/
  | assert (condition : Assertion) (next : Nat)
  /-- Tries the first address and, if that fails, the second. -/
  | split (first second : Nat)
  /-- Records the position. -/
  | save (slot : Nat) (next : Nat)
  /-- Goes on elsewhere. -/
  | jump (next : Nat)
  /-- The whole expression has matched. -/
  | accept
  deriving Inhabited

/-- A choice between going on and leaving. -/
def Instruction.choose (greedy : Bool) (go leave : Nat) : Instruction :=
  if greedy then .split go leave else .split leave go

namespace Regex

/-- How many instructions an expression takes. -/
def size : Regex → Nat
  | empty => 1
  | set _ => 1
  | look _ => 1
  | group _ r => r.size + 2
  | seq r s => r.size + s.size
  | alt r s => r.size + s.size + 1
  | opt _ r => r.size + 1
  | plus _ r => r.size + 1
  | star _ r => r.size + 1

/-- The code of an expression that starts at one address and goes on at another. -/
def emit (start next : Nat) : Regex → List Instruction
  | empty => [.jump next]
  | set s => [.char s next]
  | look a => [.assert a next]
  | group i r =>
    .save (2 * i) (start + 1) ::
      (r.emit (start + 1) (start + 1 + r.size) ++ [.save (2 * i + 1) next])
  | seq r s => r.emit start (start + r.size) ++ s.emit (start + r.size) next
  | alt r s =>
    .split (start + 1) (start + 1 + r.size) ::
      (r.emit (start + 1) next ++ s.emit (start + 1 + r.size) next)
  | opt greedy r => .choose greedy (start + 1) next :: r.emit (start + 1) next
  | plus greedy r => r.emit start (start + r.size) ++ [.choose greedy start next]
  | star greedy r => .choose greedy (start + 1) next :: r.emit (start + 1) start

/-- The code of an expression is as long as its size says. -/
theorem length_emit (r : Regex) (start next : Nat) : (r.emit start next).length = r.size := by
  induction r generalizing start next with
  | empty | set _ | look _ => rfl
  | group i r ih => simp [emit, size, ih]
  | seq r s ihr ihs => simp [emit, size, ihr, ihs]
  | alt r s ihr ihs => simp [emit, size, ihr, ihs]
  | opt g r ih => simp [emit, size, ih]
  | plus g r ih => simp [emit, size, ih]
  | star g r ih => simp [emit, size, ih]

end Regex

/-- The instructions of an expression, with the number of slots that they record positions in. The
slots `2 * i` and `2 * i + 1` bound what group `i` matched. -/
structure Program where
  code : Array Instruction
  slotCount : Nat
  deriving Inhabited

/-- The program of an expression with `groups` groups. -/
def Program.ofRegex (r : Regex) (groups : Nat) : Program :=
  ⟨(r.emit 0 r.size ++ [Instruction.accept]).toArray, 2 * (groups + 1)⟩

end TrackedComments.Pattern

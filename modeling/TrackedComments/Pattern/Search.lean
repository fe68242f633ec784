import TrackedComments.Pattern.Program

/-!
# Searching

A search tries the positions of a text from left to right and, at each, the ways through the program
in the order of preference. What a thread can still achieve depends on its address and position
alone, so a pair that has been tried is not tried again: the work is bounded by the number of pairs.

## Main results

* `Visited.fresh_mark_lt`: marking a fresh pair leaves fewer fresh ones, which is why a search ends.
-/

namespace TrackedComments.Pattern

/-- The positions that a thread has recorded. -/
abbrev Slots := Array (Option Nat)

/-- A way through the program, as far as it has come. -/
structure Thread where
  address : Nat
  position : Nat
  slots : Slots
  deriving Inhabited

/-- The pairs of address and position that have been tried, row by row. -/
structure Visited where
  width : Nat
  cells : Array Bool

namespace Visited

/-- Nothing tried yet, for a number of addresses and positions. -/
def empty (addresses positions : Nat) : Visited :=
  ⟨positions, Array.replicate (addresses * positions) false⟩

/-- The cell of a pair. -/
def index (v : Visited) (address position : Nat) : Nat :=
  address * v.width + position

/-- Whether a pair has not been tried. -/
def isFresh (v : Visited) (address position : Nat) : Bool :=
  v.cells[v.index address position]? == some false

/-- Marks a pair as tried. -/
def mark (v : Visited) (address position : Nat) : Visited :=
  { v with cells := v.cells.setIfInBounds (v.index address position) true }

/-- How many pairs have not been tried. -/
def fresh (v : Visited) : Nat :=
  v.cells.count false

/-- Marking a fresh pair leaves fewer fresh ones. -/
theorem fresh_mark_lt {v : Visited} {address position : Nat} (h : v.isFresh address position) :
    (v.mark address position).fresh < v.fresh := by
  obtain ⟨hlt, hget⟩ := Array.getElem?_eq_some_iff.mp (beq_iff_eq.mp h)
  have hpos : 0 < v.cells.count false :=
    Array.count_pos_iff.mpr (hget ▸ Array.getElem_mem hlt)
  have hset : v.cells.setIfInBounds (v.index address position) true =
      v.cells.set (v.index address position) true hlt := by
    simp [Array.setIfInBounds, hlt]
  have hcount : (v.mark address position).fresh = v.fresh - 1 := by
    simp only [fresh, mark, hset, Array.count_set hlt, hget, beq_self_eq_true, if_true,
      Bool.true_beq, Bool.false_eq_true, if_false, Nat.add_zero]
  rw [hcount]
  exact Nat.sub_lt hpos Nat.one_pos

end Visited

/-- What one instruction makes of a thread. -/
inductive Step where
  /-- The program has matched. -/
  | accept
  /-- The threads to go on with, in order of preference. -/
  | next (threads : List Thread)

/-- Runs the instruction that a thread stands at. -/
def Program.step (p : Program) (text : Array Char) (t : Thread) : Step :=
  match p.code[t.address]? with
  | none => .next []
  | some (.char s next) =>
    match text[t.position]? with
    | some c =>
      .next (if s.contains c then [{ t with address := next, position := t.position + 1 }] else [])
    | none => .next []
  | some (.assert a next) =>
    let before := if t.position = 0 then none else text[t.position - 1]?
    .next (if a.holds before text[t.position]? then [{ t with address := next }] else [])
  | some (.split first second) => .next [{ t with address := first }, { t with address := second }]
  | some (.save slot next) =>
    .next [{ t with address := next, slots := t.slots.setIfInBounds slot (some t.position) }]
  | some (.jump next) => .next [{ t with address := next }]
  | some .accept => .accept

/-- Runs the threads of a stack in order until one of them matches. -/
def Program.explore (p : Program) (text : Array Char) (stack : List Thread) (seen : Visited) :
    Option Slots :=
  match stack with
  | [] => none
  | t :: rest =>
    if _h : seen.isFresh t.address t.position then
      match p.step text t with
      | .accept => some t.slots
      | .next threads => p.explore text (threads ++ rest) (seen.mark t.address t.position)
    else p.explore text rest seen
termination_by (seen.fresh, stack.length)
decreasing_by
  · exact Prod.Lex.left _ _ (Visited.fresh_mark_lt _h)
  · exact Prod.Lex.right _ (Nat.lt_succ_self _)

/-- The thread that starts a match at a position. -/
def Program.thread (p : Program) (position : Nat) : Thread :=
  ⟨0, position, Array.replicate p.slotCount none⟩

/-- The slots of the leftmost match, and among the matches that start there of the preferred one. -/
def Program.search (p : Program) (text : Array Char) : Option Slots :=
  p.explore text ((List.range (text.size + 1)).map p.thread)
    (.empty p.code.size (text.size + 1))

/-- What a group matched, if it took part in the match. -/
def Slots.group (slots : Slots) (text : List Char) (index : Nat) : Option (List Char) :=
  match slots[2 * index]?, slots[2 * index + 1]? with
  | some (some first), some (some last) => some ((text.take last).drop first)
  | _, _ => none

end TrackedComments.Pattern

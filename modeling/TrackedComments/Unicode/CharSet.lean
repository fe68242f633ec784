/-!
# Sets of characters

A set of characters as a list of closed ranges of code points. The operations keep the ranges in
ascending order and apart from each other, which lets a look-up stop at the first range that lies
above the character.

## Main results

* `CharSet.contains_singleton`: a singleton holds its character and no other.
-/

namespace TrackedComments

/-- A set of code points as closed ranges in ascending order. -/
structure CharSet where
  ranges : List (Nat × Nat)
  deriving DecidableEq, Repr, Inhabited

namespace CharSet

/-- The greatest code point. -/
def maxCodePoint : Nat := 0x10ffff

/-- Whether a code point lies in one of the ascending ranges. -/
def inRanges (n : Nat) : List (Nat × Nat) → Bool
  | [] => false
  | (lo, hi) :: rest => if n < lo then false else n ≤ hi || inRanges n rest

/-- Whether the set holds a character. -/
def contains (s : CharSet) (c : Char) : Bool :=
  inRanges c.toNat s.ranges

/-- The empty set. -/
def empty : CharSet := ⟨[]⟩

/-- The set of all code points. -/
def univ : CharSet := ⟨[(0, maxCodePoint)]⟩

/-- The code points from `lo` to `hi`. -/
def range (lo hi : Nat) : CharSet := ⟨[(lo, hi)]⟩

/-- The set of one character. -/
def singleton (c : Char) : CharSet := range c.toNat c.toNat

/-- Joins neighbouring and overlapping ranges of a list in ascending order of the lower ends. -/
def coalesce : List (Nat × Nat) → List (Nat × Nat)
  | [] => []
  | (lo, hi) :: rest =>
    match coalesce rest with
    | [] => [(lo, hi)]
    | (lo', hi') :: more =>
      if lo' ≤ hi + 1 then (lo, max hi hi') :: more else (lo, hi) :: (lo', hi') :: more

/-- The set of the code points in any of the ranges. -/
def ofRanges (ranges : List (Nat × Nat)) : CharSet :=
  ⟨coalesce (ranges.mergeSort fun a b => a.1 ≤ b.1)⟩

/-- The code points of either set. -/
def union (s t : CharSet) : CharSet :=
  ofRanges (s.ranges ++ t.ranges)

/-- The code points of any of the sets. -/
def unions (sets : List CharSet) : CharSet :=
  ofRanges (sets.flatMap ranges)

/-- The gaps between ascending ranges, from `start` up to the greatest code point. -/
def gaps (start : Nat) : List (Nat × Nat) → List (Nat × Nat)
  | [] => if start ≤ maxCodePoint then [(start, maxCodePoint)] else []
  | (lo, hi) :: rest =>
    if start < lo then (start, lo - 1) :: gaps (hi + 1) rest else gaps (hi + 1) rest

/-- The code points outside the set. -/
def compl (s : CharSet) : CharSet :=
  ⟨gaps 0 s.ranges⟩

/-- The code points of both sets. -/
def inter (s t : CharSet) : CharSet :=
  (s.compl.union t.compl).compl

/-- The code points of the first set that are not in the second. -/
def diff (s t : CharSet) : CharSet :=
  s.inter t.compl

/-- The code points of exactly one of the sets. -/
def symmDiff (s t : CharSet) : CharSet :=
  (s.diff t).union (t.diff s)

/-- The set holds nothing. -/
def isEmpty (s : CharSet) : Bool :=
  s.ranges.isEmpty

/-- Reads a hexadecimal number, ignoring what is no digit. -/
def hexValue (cs : List Char) : Nat :=
  cs.foldl
    (fun n c =>
      if c.isDigit then n * 16 + (c.toNat - '0'.toNat)
      else if 'a' ≤ c ∧ c ≤ 'f' then n * 16 + (c.toNat - 'a'.toNat + 10)
      else n)
    0

/-- Reads one entry of a table: a code point, or two with a hyphen between them. -/
def readEntry (cs : List Char) : Nat × Nat :=
  let lo := cs.takeWhile (· != '-')
  match cs.dropWhile (· != '-') with
  | [] => (hexValue lo, hexValue lo)
  | _ :: hi => (hexValue lo, hexValue hi)

/-- The set that a table lists: ascending entries in hexadecimal, separated by blanks. -/
def ofTable (rows : List String) : CharSet :=
  ⟨rows.flatMap fun row => (row.splitOn " ").map fun entry => readEntry entry.toList⟩

@[simp] theorem inRanges_nil (n : Nat) : inRanges n [] = false := rfl

/-- A code point lies in one of the ranges if it does not lie below the first one and lies in it
or in a later one. -/
@[simp] theorem inRanges_cons (n lo hi : Nat) (rest : List (Nat × Nat)) :
    inRanges n ((lo, hi) :: rest) = true ↔ lo ≤ n ∧ (n ≤ hi ∨ inRanges n rest = true) := by
  rw [inRanges]
  split <;> simp <;> omega

@[simp] theorem contains_empty (c : Char) : empty.contains c = false := rfl

/-- A singleton holds its character and no other. -/
theorem contains_singleton (c d : Char) : (singleton c).contains d = true ↔ d = c := by
  simp only [contains, singleton, range, inRanges_cons, inRanges_nil, Bool.false_eq_true, or_false]
  exact ⟨fun h => Char.toNat_inj.mp (by omega), fun h => by simp [h]⟩

end CharSet

end TrackedComments

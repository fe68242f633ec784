import TrackedComments.Pattern.Program
import TrackedComments.Proofs.Pattern.Search

/-!
# The preferred match of an expression

What an expression matches, said without programs: at each choice the preferred side is taken, and
the other one only if nothing comes of the first. What is to come after the expression is a
continuation, which is given the position that has been reached and the slots. Programs do the
same, for all expressions in which no repetition can go round without a character.

## Main results

* `Program.yields_emit`: the code of an expression does what the expression says.
* `Program.search_ofRegex`: a search finds the preferred match at the leftmost position with one.
-/

namespace TrackedComments.Pattern

/-- Takes the result of going on or that of leaving, by preference. -/
def prefer (greedy : Bool) (go leave : Option Slots) : Option Slots :=
  if greedy then go.or leave else leave.or go

/-- What comes of a text from a position on: what a continuation makes of it. -/
abbrev Continuation := Nat → Slots → Option Slots

/-- Nothing is to come: the slots are the result. -/
def Continuation.done : Continuation := fun _ slots => some slots

namespace Regex

/-- The first result of a continuation over all ways in which an expression matches at a position,
in the order of preference. -/
def first (text : Array Char) : Regex → Continuation → Continuation
  | empty, k, position, slots => k position slots
  | set s, k, position, slots =>
    match text[position]? with
    | some c => if s.contains c then k (position + 1) slots else none
    | none => none
  | look a, k, position, slots =>
    let before := if position = 0 then none else text[position - 1]?
    if a.holds before text[position]? then k position slots else none
  | group i r, k, position, slots =>
    r.first text (fun last slots => k last (slots.setIfInBounds (2 * i + 1) (some last))) position
      (slots.setIfInBounds (2 * i) (some position))
  | seq r s, k, position, slots => r.first text (s.first text k) position slots
  | alt r s, k, position, slots =>
    (r.first text k position slots).or (s.first text k position slots)
  | opt greedy r, k, position, slots =>
    prefer greedy (r.first text k position slots) (k position slots)
  | plus greedy r, k, position, slots =>
    r.first text (fun next slots =>
      prefer greedy
        (if _h : position < next ∧ next ≤ text.size then (plus greedy r).first text k next slots
          else none)
        (k next slots)) position slots
  | star greedy r, k, position, slots =>
    prefer greedy
      (r.first text (fun next slots =>
        if _h : position < next ∧ next ≤ text.size then (star greedy r).first text k next slots
        else none) position slots)
      (k position slots)
termination_by r _ position => (sizeOf r, text.size - position)

/-- Whether every turn of every repetition consumes a character. -/
def turnsConsume : Regex → Bool
  | empty | set _ | look _ => true
  | group _ r | opt _ r => r.turnsConsume
  | seq r s | alt r s => r.turnsConsume && s.turnsConsume
  | plus _ r | star _ r => r.consumes && r.turnsConsume

end Regex

namespace Program

variable {p : Program} {text : Array Char} {position : Nat} {slots : Slots}

/-! ### Code in its place -/

/-- Whether a program has some code at an address. -/
def HasCode (p : Program) (address : Nat) (code : List Instruction) : Prop :=
  ∀ i instruction, code[i]? = some instruction → p.code[address + i]? = some instruction

/-- The first instruction stands at the address. -/
theorem HasCode.head {address : Nat} {instruction : Instruction} {code : List Instruction}
    (h : p.HasCode address (instruction :: code)) : p.code[address]? = some instruction :=
  h 0 instruction rfl

/-- The other instructions stand at the next address. -/
theorem HasCode.tail {address : Nat} {instruction : Instruction} {code : List Instruction}
    (h : p.HasCode address (instruction :: code)) : p.HasCode (address + 1) code := by
  intro i next hi
  rw [Nat.add_assoc, Nat.add_comm 1 i]
  exact h (i + 1) next hi

/-- The first part of some code stands at the address. -/
theorem HasCode.left {address : Nat} {code code' : List Instruction}
    (h : p.HasCode address (code ++ code')) : p.HasCode address code := by
  intro i instruction hi
  obtain ⟨hlt, -⟩ := List.getElem?_eq_some_iff.mp hi
  exact h i instruction (by rw [List.getElem?_append_left hlt, hi])

/-- The second part of some code stands after the first. -/
theorem HasCode.right {address : Nat} {code code' : List Instruction}
    (h : p.HasCode address (code ++ code')) : p.HasCode (address + code.length) code' := by
  intro i instruction hi
  rw [Nat.add_assoc]
  refine h (code.length + i) instruction ?_
  rw [List.getElem?_append_right (Nat.le_add_right _ _), Nat.add_sub_cancel_left, hi]

/-! ### Instructions -/

/-- Whether a continuation is what the threads at an address yield, from a position on. -/
def Continues (p : Program) (text : Array Char) (address least : Nat) (k : Continuation) : Prop :=
  ∀ position slots, least ≤ position → position ≤ text.size →
    p.Yields text ⟨address, position, slots⟩ (k position slots)

/-- What holds from a position on holds from a later one on. -/
theorem Continues.mono {address least least' : Nat} {k : Continuation}
    (h : p.Continues text address least k) (hle : least ≤ least') :
    p.Continues text address least' k :=
  fun position slots hleast => h position slots (Nat.le_trans hle hleast)

section Instructions

variable {address next : Nat} {k : Continuation} {result : Option Slots}

/-- An instruction for a character yields what the set of characters finds. -/
theorem yields_char {s : CharSet} (h : p.code[address]? = some (.char s next))
    (hk : p.Continues text next (position + 1) k) :
    p.Yields text ⟨address, position, slots⟩ ((Regex.set s).first text k position slots) := by
  rw [Regex.first]
  cases hc : text[position]? with
  | none => exact yields_of_fail (by simp only [step, h, hc])
  | some c =>
    obtain ⟨hlt, -⟩ := Array.getElem?_eq_some_iff.mp hc
    dsimp only
    split
    · rename_i hcontains
      refine yields_of_next ?_ (hk (position + 1) slots (Nat.le_refl _) hlt)
      simp only [step, h, hc, if_pos hcontains]
    · rename_i hnot
      refine yields_of_fail ?_
      simp only [step, h, hc, if_neg hnot]

/-- An instruction for an assertion yields what the assertion finds. -/
theorem yields_assert {a : Assertion} (h : p.code[address]? = some (.assert a next))
    (hk : p.Yields text ⟨next, position, slots⟩ (k position slots)) :
    p.Yields text ⟨address, position, slots⟩ ((Regex.look a).first text k position slots) := by
  rw [Regex.first]
  by_cases hholds : a.holds (if position = 0 then none else text[position - 1]?) text[position]?
  · rw [if_pos hholds]
    refine yields_of_next ?_ hk
    simp only [step, h, if_pos hholds]
  · rw [if_neg hholds]
    refine yields_of_fail ?_
    simp only [step, h, if_neg hholds]

/-- An instruction for a slot sets it and goes on. -/
theorem yields_save {slot : Nat} (h : p.code[address]? = some (.save slot next))
    (hnext : p.Yields text ⟨next, position, slots.setIfInBounds slot (some position)⟩ result) :
    p.Yields text ⟨address, position, slots⟩ result :=
  yields_of_next (by simp only [step, h]) hnext

/-- A jump goes on elsewhere. -/
theorem yields_jump (h : p.code[address]? = some (.jump next))
    (hnext : p.Yields text ⟨next, position, slots⟩ result) :
    p.Yields text ⟨address, position, slots⟩ result :=
  yields_of_next (by simp only [step, h]) hnext

/-- A split tries both ways in order. -/
theorem yields_split {go leave : Nat} (h : p.code[address]? = some (.split go leave))
    {gone left : Option Slots} (hgo : p.Yields text ⟨go, position, slots⟩ gone)
    (hleave : p.Yields text ⟨leave, position, slots⟩ left) :
    p.Yields text ⟨address, position, slots⟩ (gone.or left) :=
  yields_of_split (by simp only [step, h]) hgo hleave

/-- A choice tries both ways in the order that it prefers. -/
theorem yields_choose {greedy : Bool} {go leave : Nat}
    (h : p.code[address]? = some (.choose greedy go leave)) {gone left : Option Slots}
    (hgo : p.Yields text ⟨go, position, slots⟩ gone)
    (hleave : p.Yields text ⟨leave, position, slots⟩ left) :
    p.Yields text ⟨address, position, slots⟩ (prefer greedy gone left) := by
  cases greedy with
  | false => exact yields_split h hleave hgo
  | true => exact yields_split h hgo hleave

end Instructions

/-! ### Expressions -/

/-- The code of an expression does what the expression says. A repetition is followed through its
turns by induction on what is left of the text. -/
theorem yields_emit {r : Regex} (hr : r.turnsConsume) {start next : Nat}
    (hcode : p.HasCode start (r.emit start next)) {k : Continuation}
    (hposition : position ≤ text.size)
    (hk : p.Continues text next (position + r.consumes.toNat) k) :
    p.Yields text ⟨start, position, slots⟩ (r.first text k position slots) := by
  induction r generalizing start next k position slots with
  | empty =>
    rw [Regex.first]
    exact yields_jump hcode.head (hk position slots (Nat.le_refl _) hposition)
  | set s => exact yields_char hcode.head hk
  | look a => exact yields_assert hcode.head (hk position slots (Nat.le_refl _) hposition)
  | group i r ih =>
    rw [Regex.first]
    have hlast := hcode.tail.right.head
    rw [Regex.length_emit] at hlast
    refine yields_save hcode.head (ih hr hcode.tail.left hposition fun last slots hleast hle => ?_)
    exact yields_save hlast (hk last _ hleast hle)
  | seq r s ihr ihs =>
    rw [Regex.first]
    obtain ⟨hr, hs⟩ := Bool.and_eq_true_iff.mp hr
    have hcode' := hcode.right
    rw [Regex.length_emit] at hcode'
    refine ihr hr hcode.left hposition fun last slots hleast hle => ?_
    refine ihs hs hcode' hle (hk.mono ?_)
    have hconsumes : (r.consumes || s.consumes).toNat ≤ r.consumes.toNat + s.consumes.toNat := by
      cases r.consumes <;> cases s.consumes <;> decide
    rw [Regex.consumes]
    omega
  | alt r s ihr ihs =>
    rw [Regex.first]
    obtain ⟨hr, hs⟩ := Bool.and_eq_true_iff.mp hr
    have hcode' := hcode.tail.right
    rw [Regex.length_emit] at hcode'
    have hleft : (r.consumes && s.consumes).toNat ≤ r.consumes.toNat := by
      cases r.consumes <;> cases s.consumes <;> decide
    have hright : (r.consumes && s.consumes).toNat ≤ s.consumes.toNat := by
      cases r.consumes <;> cases s.consumes <;> decide
    refine yields_split hcode.head ?_ ?_
    · exact ihr hr hcode.tail.left hposition (hk.mono (Nat.add_le_add_left hleft _))
    · exact ihs hs hcode' hposition (hk.mono (Nat.add_le_add_left hright _))
  | opt greedy r ih =>
    rw [Regex.first]
    refine yields_choose hcode.head ?_ (hk position slots (Nat.le_refl _) hposition)
    exact ih hr hcode.tail hposition (hk.mono (Nat.add_le_add_left (Nat.zero_le _) _))
  | plus greedy r ih =>
    obtain ⟨hconsumes, hr⟩ := Bool.and_eq_true_iff.mp hr
    have hchoose := hcode.right.head
    rw [Regex.length_emit] at hchoose
    rw [Regex.consumes, hconsumes] at hk
    -- a turn consumes a character, so that less of the text is left for the next one
    induction hleft : text.size - position using Nat.strongRecOn
      generalizing position slots with
    | ind left ihturns =>
      rw [Regex.first]
      refine ih hr hcode.left hposition fun next slots hleast hle => ?_
      rw [hconsumes] at hleast
      have hlt : position < next := hleast
      refine yields_choose hchoose ?_ (hk next slots hleast hle)
      rw [dif_pos ⟨hlt, hle⟩]
      exact ihturns _ (by omega) hle (hk.mono (Nat.add_le_add_right (Nat.le_of_lt hlt) _)) rfl
  | star greedy r ih =>
    obtain ⟨hconsumes, hr⟩ := Bool.and_eq_true_iff.mp hr
    induction hleft : text.size - position using Nat.strongRecOn
      generalizing position slots with
    | ind left ihturns =>
      rw [Regex.first]
      refine yields_choose hcode.head ?_ (hk position slots (Nat.le_refl _) hposition)
      refine ih hr hcode.tail hposition fun next slots hleast hle => ?_
      rw [hconsumes] at hleast
      have hlt : position < next := hleast
      rw [dif_pos ⟨hlt, hle⟩]
      exact ihturns _ (by omega) hle (hk.mono (Nat.add_le_add_right (Nat.le_of_lt hlt) _)) rfl

/-- A program is the code of its expression and the instruction to accept. -/
theorem hasCode_ofRegex (r : Regex) (groups : Nat) :
    (ofRegex r groups).HasCode 0 (r.emit 0 r.size ++ [.accept]) := by
  intro i instruction hi
  rw [Nat.zero_add, ofRegex, List.getElem?_toArray, hi]

/-- The slots before a match. -/
def noSlots (groups : Nat) : Slots :=
  Array.replicate (2 * (groups + 1)) none

/-- A search finds the preferred match at the leftmost position with one. -/
theorem search_ofRegex {r : Regex} (hr : r.turnsConsume) (groups : Nat) (text : Array Char) :
    (ofRegex r groups).search text = (List.range (text.size + 1)).findSome? fun position =>
      r.first text .done position (noSlots groups) := by
  have hcode := hasCode_ofRegex r groups
  have haccept := hcode.right.head
  rw [Regex.length_emit, Nat.zero_add] at haccept
  refine search_eq_findSome? fun position hposition => ?_
  refine yields_emit hr hcode.left hposition fun last slots _ _ => ?_
  exact yields_of_accept (t := ⟨r.size, last, slots⟩) (by simp only [step, haccept])

end Program

end TrackedComments.Pattern

/-!
# White space

Every trimming in this library removes the characters with the Unicode property `White_Space` and no
others: a zero-width space or a byte order mark is text.

## Main results

* `Chars.trimEnd_append_of_isSpace`: blanks added at the end are trimmed away again.
* `Chars.trim_trimEnd`: trimming the end first changes nothing about trimming both ends.
-/

namespace TrackedComments

/-- The characters with the Unicode property `White_Space`. -/
def isSpace (c : Char) : Bool :=
  let n := c.toNat
  (0x9 ≤ n && n ≤ 0xd) || n == 0x20 || n == 0x85 || n == 0xa0 || n == 0x1680 ||
    (0x2000 ≤ n && n ≤ 0x200a) || n == 0x2028 || n == 0x2029 || n == 0x202f || n == 0x205f ||
    n == 0x3000

namespace Chars

/-- Drops the blanks in front. -/
def trimStart (cs : List Char) : List Char :=
  cs.dropWhile isSpace

/-- Drops the blanks at the end. -/
def trimEnd (cs : List Char) : List Char :=
  (cs.reverse.dropWhile isSpace).reverse

/-- Drops the blanks at both ends. -/
def trim (cs : List Char) : List Char :=
  trimStart (trimEnd cs)

/-- A text of blanks alone. -/
def isBlank (cs : List Char) : Bool :=
  cs.all isSpace

@[simp] theorem trimStart_nil : trimStart [] = [] := rfl

@[simp] theorem trimEnd_nil : trimEnd [] = [] := rfl

@[simp] theorem trim_nil : trim [] = [] := rfl

/-- Blanks at the end are all that `trimEnd` removes. -/
theorem exists_trimEnd_append (cs : List Char) :
    ∃ blanks, cs = trimEnd cs ++ blanks ∧ ∀ c ∈ blanks, isSpace c := by
  refine ⟨(cs.reverse.takeWhile isSpace).reverse, ?_, ?_⟩
  · rw [trimEnd, ← List.reverse_append, List.takeWhile_append_dropWhile, List.reverse_reverse]
  · intro c hc
    exact List.all_eq_true.mp List.all_takeWhile c (List.mem_reverse.mp hc)

/-- Blanks added at the end are trimmed away again. -/
theorem trimEnd_append_of_isSpace (cs : List Char) {blanks : List Char}
    (h : ∀ c ∈ blanks, isSpace c) : trimEnd (cs ++ blanks) = trimEnd cs := by
  have hr : ∀ c ∈ blanks.reverse, isSpace c := fun c hc => h c (List.mem_reverse.mp hc)
  rw [trimEnd, List.reverse_append, List.dropWhile_append_of_pos hr, ← trimEnd]

/-- Trimming the end a second time finds nothing. -/
@[simp] theorem trimEnd_trimEnd (cs : List Char) : trimEnd (trimEnd cs) = trimEnd cs := by
  obtain ⟨blanks, hcs, hb⟩ := exists_trimEnd_append cs
  have h := trimEnd_append_of_isSpace (trimEnd cs) hb
  rw [← hcs] at h
  exact h.symm

/-- Trimming the end first changes nothing about trimming both ends. -/
@[simp] theorem trim_trimEnd (cs : List Char) : trim (trimEnd cs) = trim cs := by
  rw [trim, trimEnd_trimEnd, trim]

end Chars

/-- A text without the blanks at its ends. -/
def trim (s : String) : String :=
  String.ofList (Chars.trim s.toList)

/-- Whether a text is empty or holds blanks alone. -/
def isBlank (s : String) : Bool :=
  Chars.isBlank s.toList

end TrackedComments

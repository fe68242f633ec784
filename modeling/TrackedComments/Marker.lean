import TrackedComments.Text.Space
import TrackedComments.Unicode.DecimalDigit

/-!
# Issue markers

A comment is linked to an issue by a marker such as `[GH-#42]` at the end of its line. The number
of a line is that of its first marker. Markers at the end of a line, and the blanks around them,
are no part of the comment.

## Main results

* `Marker.length_dropReversed_lt`: taking a marker off shortens the line, which is why
  `Marker.stripTrailing` ends.
-/

namespace TrackedComments.Marker

/-- How every marker begins. -/
def opening : List Char := ['[', 'G', 'H', '-', '#']

/-- The marker for an issue number. -/
def format (number : UInt64) : List Char :=
  opening ++ number.toNat.repr.toList ++ [']']

/-- The digits of the marker that a text begins with, if it begins with one. The digits of any
script will do. -/
def digitsAt? (cs : List Char) : Option (List Char) :=
  if opening.isPrefixOf cs then
    let rest := cs.drop opening.length
    let digits := rest.takeWhile isDecimalDigit
    if digits.isEmpty then none
    else if (rest.dropWhile isDecimalDigit).head? = some ']' then some digits
    else none
  else none

/-- The digits of the first marker in a text. -/
def firstDigits? : List Char → Option (List Char)
  | [] => none
  | c :: cs => (digitsAt? (c :: cs)).or (firstDigits? cs)

/-- The issue number that digits give: a positive one of 64 bits, in the digits of ASCII. -/
def number? (digits : List Char) : Option UInt64 :=
  if digits.all Char.isDigit then
    let n := Nat.ofDigitChars 10 digits 0
    if 0 < n ∧ n < UInt64.size then some (.ofNat n) else none
  else none

/-- The issue number on a line: that of its first marker, if it gives one. -/
def find? (line : List Char) : Option UInt64 :=
  (firstDigits? line).bind number?

/-- Whether a line holds the beginning of a marker. -/
def isOpenedIn : List Char → Bool
  | [] => false
  | c :: cs => opening.isPrefixOf (c :: cs) || isOpenedIn cs

/-- Takes a marker off the front of a reversed text, if one stands there. -/
def dropReversed : List Char → Option (List Char)
  | ']' :: rest =>
    let afterDigits := rest.dropWhile Char.isDigit
    if (rest.takeWhile Char.isDigit).isEmpty then none
    else if opening.reverse.isPrefixOf afterDigits then some (afterDigits.drop opening.length)
    else none
  | _ => none

/-- Taking a marker off shortens the text. -/
theorem length_dropReversed_lt {cs rest : List Char} (h : dropReversed cs = some rest) :
    rest.length < cs.length := by
  unfold dropReversed at h
  split at h
  · rename_i tail
    dsimp only at h
    split at h
    · simp at h
    · split at h
      · obtain rfl := Option.some.inj h
        have hlen := (List.dropWhile_sublist (p := Char.isDigit) (l := tail)).length_le
        simp only [List.length_drop, List.length_cons]
        omega
      · simp at h
  · simp at h

/-- Takes all markers and blanks off the front of a reversed text. -/
def stripReversed (cs : List Char) : List Char :=
  match _h : dropReversed (cs.dropWhile isSpace) with
  | none => cs.dropWhile isSpace
  | some rest => stripReversed rest
termination_by cs.length
decreasing_by
  have h₁ := length_dropReversed_lt _h
  have h₂ := (List.dropWhile_sublist (p := isSpace) (l := cs)).length_le
  omega

/-- The line without the markers at its end and the blanks around them. -/
def stripTrailing (line : List Char) : List Char :=
  (stripReversed line.reverse).reverse

end TrackedComments.Marker

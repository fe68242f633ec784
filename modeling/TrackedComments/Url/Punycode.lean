/-!
# Punycode

The label of a domain name with characters beyond ASCII is written with ASCII alone: first its ASCII
characters, then, after a hyphen, a list of numbers that say where the other characters belong.
Each number is the distance to the next place in the order of code points and then of positions,
with its smallest digit in front; the threshold that ends a number adapts to the numbers before.
-/

namespace TrackedComments.Punycode

/-- The digits are `a` to `z` and `0` to `9`. -/
def digitChar (d : Nat) : Char :=
  if d < 26 then Char.ofNat ('a'.toNat + d) else Char.ofNat ('0'.toNat + (d - 26))

/-- The threshold of the digit at a position: at least 1 and at most 26. -/
def threshold (position bias : Nat) : Nat :=
  min 26 (max 1 (position - bias))

/-- Divides a distance until it is small, and counts the divisions. -/
def settle (distance : Nat) : Nat × Nat :=
  if distance ≤ 455 then (distance, 0)
  else
    let (rest, count) := settle (distance / 35)
    (rest, count + 1)
termination_by distance
decreasing_by exact Nat.div_lt_self (by omega) (by omega)

/-- The bias for the next number. -/
def adapt (distance count : Nat) (isFirst : Bool) : Nat :=
  let halved := if isFirst then distance / 700 else distance / 2
  let (rest, divisions) := settle (halved + halved / count)
  36 * divisions + 36 * rest / (rest + 38)

/-- A number as digits, the smallest one in front. -/
def writeNumber (bias position n : Nat) : List Char :=
  let t := threshold position bias
  if n < t then [digitChar n]
  else
    digitChar (t + (n - t) % (36 - t)) :: writeNumber bias (position + 36) ((n - t) / (36 - t))
termination_by n
decreasing_by
  have ht : 1 ≤ threshold position bias := by unfold threshold; omega
  have hdiv := Nat.div_le_self (n - threshold position bias) (36 - threshold position bias)
  omega

/-- What is known while the characters of a label are written. -/
structure State where
  /-- The digits, those of the last number first. -/
  digits : List (List Char)
  distance : Nat
  bias : Nat
  /-- How many characters have been written. -/
  written : Nat

/-- Looks at one character of the label while those with a given code point are written. -/
def visit (basic code : Nat) (s : State) (c : Char) : State :=
  if c.toNat < code then { s with distance := s.distance + 1 }
  else if c.toNat = code then
    { digits := writeNumber s.bias 36 s.distance :: s.digits
      distance := 0
      bias := adapt s.distance (s.written + 1) (s.written == basic)
      written := s.written + 1 }
  else s

/-- Writes the characters of a label that have the given code points, in ascending order. The next
number counts from `code`. -/
def writeCodes (label : List Char) (basic : Nat) : Nat → List Nat → State → State
  | _, [], s => s
  | code, next :: codes, s =>
    let s := { s with distance := s.distance + (next - code) * (s.written + 1) }
    let s := label.foldl (visit basic next) s
    writeCodes label basic (next + 1) codes { s with distance := s.distance + 1 }

/-- A label in ASCII, without the mark that it is encoded. -/
def encode (label : List Char) : List Char :=
  let basic := label.filter fun c => c.toNat < 0x80
  let codes := ((label.map Char.toNat).filter fun n => 0x80 ≤ n).mergeSort.eraseDups
  let s := writeCodes label basic.length 0x80 codes ⟨[], 0, 72, basic.length⟩
  basic ++ (if basic.isEmpty then [] else ['-']) ++ s.digits.reverse.flatten

end TrackedComments.Punycode

/-!
# Reading bytes as text

Bytes that are not the UTF-8 form of a text can be read nevertheless: each longest run of bytes
that begins like a character but is none is replaced by U+FFFD.
-/

namespace TrackedComments.Utf8

/-- How many bytes follow a first byte, and the bounds of the byte that follows at once. -/
def followers (first : UInt8) : Option (Nat × UInt8 × UInt8) :=
  if first < 0x80 then some (0, 0x80, 0xbf)
  else if 0xc2 ≤ first ∧ first ≤ 0xdf then some (1, 0x80, 0xbf)
  else if first = 0xe0 then some (2, 0xa0, 0xbf)
  else if first = 0xed then some (2, 0x80, 0x9f)
  else if 0xe1 ≤ first ∧ first ≤ 0xef then some (2, 0x80, 0xbf)
  else if first = 0xf0 then some (3, 0x90, 0xbf)
  else if 0xf1 ≤ first ∧ first ≤ 0xf3 then some (3, 0x80, 0xbf)
  else if first = 0xf4 then some (3, 0x80, 0x8f)
  else none

/-- The bits that a first byte contributes when a number of bytes follow it. -/
def leadingBits (count : Nat) (first : UInt8) : Nat :=
  match count with
  | 0 => first.toNat
  | 1 => first.toNat % 0x20
  | 2 => first.toNat % 0x10
  | _ => first.toNat % 0x8

/-- Reads further bytes of a character whose bits so far are given. The rest is what follows the
last byte that belongs to it. -/
def readFollowers (bits : Nat) :
    Nat → UInt8 → UInt8 → List UInt8 → Option Nat × List UInt8
  | 0, _, _, rest => (some bits, rest)
  | _ + 1, _, _, [] => (none, [])
  | count + 1, low, high, b :: rest =>
    if low ≤ b ∧ b ≤ high then
      readFollowers (bits * 0x40 + b.toNat % 0x40) count 0x80 0xbf rest
    else (none, b :: rest)

/-- Reads one character, or what is to be replaced. -/
def readChar (first : UInt8) (rest : List UInt8) : Char × List UInt8 :=
  match followers first with
  | none => ('\ufffd', rest)
  | some (count, low, high) =>
    match readFollowers (leadingBits count first) count low high rest with
    | (some code, rest) => (Char.ofNat code, rest)
    | (none, rest) => ('\ufffd', rest)

/-- Reading the bytes that follow leaves no more than there were. -/
theorem length_readFollowers_le (bits count : Nat) (low high : UInt8) (bytes : List UInt8) :
    (readFollowers bits count low high bytes).2.length ≤ bytes.length := by
  fun_induction readFollowers bits count low high bytes with
  | case1 => exact Nat.le_refl _
  | case2 => exact Nat.le_refl _
  | case3 bits count low high b rest hrange ih => exact Nat.le_succ_of_le ih
  | case4 => exact Nat.le_refl _

/-- The rest of the bytes after a character is no longer than it was. -/
theorem length_readChar_le (first : UInt8) (rest : List UInt8) :
    (readChar first rest).2.length ≤ rest.length := by
  unfold readChar
  split
  · simp
  · rename_i count low high _
    have h := length_readFollowers_le (leadingBits count first) count low high rest
    split <;> simp_all

/-- The characters of bytes, `before` being those that have been read, in reverse. -/
def decodeFrom (before : List Char) : List UInt8 → List Char
  | [] => before.reverse
  | first :: rest => decodeFrom ((readChar first rest).1 :: before) (readChar first rest).2
termination_by bytes => bytes.length
decreasing_by
  have h := length_readChar_le first rest
  simp only [List.length_cons]
  omega

/-- The text of bytes, with replacements. -/
def decode (bytes : List UInt8) : List Char :=
  decodeFrom [] bytes

end TrackedComments.Utf8

/-!
# Globs

A glob describes paths as sequences of bytes. Matching keeps track of what can be left of a path
once a part of the glob has been matched: a list of remainders, the longest first, each length
once. The glob matches if nothing can be left at its end.
-/

namespace TrackedComments

/-- The bytes of a text. -/
def utf8Bytes (cs : List Char) : List UInt8 :=
  cs.flatMap String.utf8EncodeChar

/-- The byte of `/`. -/
def slash : UInt8 := 0x2f

/-- A part of a glob that is not made of others. -/
inductive GlobToken where
  /-- A byte that stands for itself. -/
  | byte (b : UInt8)
  /-- `?`: one byte. -/
  | anyByte
  /-- `*`: any number of bytes. -/
  | star
  /-- `**` with a separator at the start: nothing, or directories. -/
  | leadingDirectories
  /-- A separator with `**` at the end: everything in a directory. -/
  | everythingBelow
  /-- `**` between separators: a separator, or directories between two of them. -/
  | innerDirectories
  /-- One byte of a class, or with `negated` outside of it. -/
  | oneOf (negated : Bool) (ranges : List (UInt8 × UInt8))
  deriving DecidableEq, Repr, Inhabited

/-- A glob. -/
inductive Glob where
  | empty
  | token (t : GlobToken)
  | seq (first second : Glob)
  | alt (first second : Glob)
  deriving DecidableEq, Repr, Inhabited

namespace Glob

/-- What can be left of a path, the longest remainder first. -/
abbrev Remainders := List (List UInt8)

/-- Drops remainders that are as long as the one before. -/
def dedup : Remainders → Remainders
  | [] => []
  | [r] => [r]
  | r :: s :: rest => if r.length = s.length then dedup (s :: rest) else r :: dedup (s :: rest)

/-- The remainders of either list. -/
def merge (rs ss : Remainders) : Remainders :=
  dedup (rs.merge ss fun r s => s.length ≤ r.length)

/-- The path and all that is left of it when bytes are taken off the front. -/
def tails : List UInt8 → Remainders
  | [] => [[]]
  | b :: rest => (b :: rest) :: tails rest

/-- The tails up to the first one that begins with a separator. -/
def tailsToSlash : List UInt8 → Remainders
  | [] => [[]]
  | b :: rest => (b :: rest) :: (if b = slash then [] else tailsToSlash rest)

/-- What follows each separator. -/
def afterSlashes : List UInt8 → Remainders
  | [] => []
  | b :: rest => if b = slash then rest :: afterSlashes rest else afterSlashes rest

/-- What is left when one byte that satisfies a condition is taken off. -/
def dropByte (p : UInt8 → Bool) (rs : Remainders) : Remainders :=
  rs.filterMap fun
    | [] => none
    | b :: rest => if p b then some rest else none

/-- What is left when any number of bytes is taken off: as all remainders are tails of the longest
one, those are its tails. -/
def dropAny (rs : Remainders) : Remainders :=
  match rs with
  | [] => []
  | r :: _ => tails r

/-- What is left when directories are taken off. -/
def dropDirectories (rs : Remainders) : Remainders :=
  match rs with
  | [] => []
  | r :: _ => afterSlashes r

end Glob

open Glob in
/-- What a token leaves of the remainders. With `separated` the tokens for bytes match no
separator. -/
def GlobToken.advance (separated : Bool) (rs : Remainders) : GlobToken → Remainders
  | byte b => dropByte (· == b) rs
  | anyByte => dropByte (fun b => !(separated && b == slash)) rs
  | star =>
    if separated then rs.foldr (fun r acc => merge (tailsToSlash r) acc) []
    else dropAny rs
  | leadingDirectories => merge rs (dropDirectories rs)
  | everythingBelow => dropAny (dropByte (· == slash) rs)
  | innerDirectories =>
    let inside := dropByte (· == slash) rs
    merge inside (dropDirectories inside)
  | oneOf negated ranges =>
    dropByte (fun b => (ranges.any fun (lo, hi) => lo ≤ b && b ≤ hi) != negated) rs

namespace Glob

/-- What a glob leaves of the remainders. -/
def advance (separated : Bool) (rs : Remainders) : Glob → Remainders
  | empty => rs
  | token t => t.advance separated rs
  | seq g h => h.advance separated (g.advance separated rs)
  | alt g h => merge (g.advance separated rs) (h.advance separated rs)

/-- Whether the glob matches a path as a whole. -/
def accepts (separated : Bool) (g : Glob) (path : List UInt8) : Bool :=
  (g.advance separated [path]).contains []

/-- Globs one after the other. -/
def sequence : List Glob → Glob
  | [] => empty
  | [g] => g
  | g :: rest => seq g (sequence rest)

/-- Globs to choose from. -/
def choice : List Glob → Glob
  | [] => empty
  | [g] => g
  | g :: rest => alt g (choice rest)

end Glob

end TrackedComments

import TrackedComments.Text.Split
import TrackedComments.Unicode.Case
import TrackedComments.Url.Percent
import TrackedComments.Url.Punycode

/-!
# Hosts

The host of a URL is a domain name, an address of four bytes or an address of eight words in
brackets. Addresses have many spellings and are written in one of them.
-/

namespace TrackedComments.Host

/-- Digits in a base. -/
def readDigits (base : Nat) (cs : List Char) : Option Nat :=
  cs.foldl
    (fun n c =>
      match n, Percent.hexValue? c with
      | some n, some d => if d < base then some (n * base + d) else none
      | _, _ => none)
    (some 0)

/-- A part of an address of four bytes: decimal, octal after `0` or hexadecimal after `0x`. -/
def readPart : List Char → Option Nat
  | [] => none
  | '0' :: 'x' :: digits => readDigits 16 digits
  | '0' :: 'X' :: digits => readDigits 16 digits
  | '0' :: digits => readDigits 8 digits
  | digits => readDigits 10 digits

/-- The labels of a domain, without an empty one at the end. -/
def labels (domain : List Char) : List (List Char) :=
  let parts := Chars.splitAtChar '.' domain
  if 1 < parts.length ∧ parts.getLast? = some [] then parts.dropLast else parts

/-- Whether a domain has to be an address of four bytes, because its last label is a number. -/
def endsInNumber (domain : List Char) : Bool :=
  match (labels domain).getLast? with
  | none => false
  | some [] => false
  | some label => label.all Char.isDigit || (readPart label).isSome

/-- A value as four bytes in decimal. -/
def writeBytes (n : Nat) : List Char :=
  ['.'].intercalate
    ([n / 0x1000000, n / 0x10000 % 0x100, n / 0x100 % 0x100, n % 0x100].map (Nat.toDigits 10))

/-- Reads an address of four bytes. All parts but the last are bytes, and the last one fills up the
bytes that are left. -/
def readBytes (domain : List Char) : Option Nat := do
  let parts ← (labels domain).mapM readPart
  if 4 < parts.length then none
  else
    let last ← parts.getLast?
    let front := parts.dropLast
    if front.any (255 < ·) ∨ Nat.pow 256 (5 - parts.length) ≤ last then none
    else
      some (front.zipIdx.foldl (fun n (part, index) => n + part * Nat.pow 256 (3 - index)) last)

/-- The two words of an address of four decimal bytes. -/
def readBytesAsWords (cs : List Char) : Option (List Nat) :=
  let parts := Chars.splitAtChar '.' cs
  if parts.length ≠ 4 then none
  else do
    let bytes ← parts.mapM fun part =>
      if part.isEmpty ∨ 3 < part.length ∨ (part.head? = some '0' ∧ part.length ≠ 1) then none
      else (readDigits 10 part).bind fun n => if n < 256 then some n else none
    match bytes with
    | [a, b, c, d] => some [a * 256 + b, c * 256 + d]
    | _ => none

/-- The words between colons. The last ones may be written as four bytes. -/
def readGroups : List (List Char) → Option (List Nat)
  | [] => some []
  | [group] =>
    if group.contains '.' then readBytesAsWords group
    else if group.isEmpty ∨ 4 < group.length then none
    else (readDigits 16 group).map fun n => [n]
  | group :: groups =>
    if group.isEmpty ∨ 4 < group.length then none
    else do
      let word ← readDigits 16 group
      let words ← readGroups groups
      some (word :: words)

/-- The words of a part of an address. -/
def readWords (cs : List Char) : Option (List Nat) :=
  if cs.isEmpty then some [] else readGroups (Chars.splitAtChar ':' cs)

/-- The text before and after the first `::`. -/
def splitAtGap : List Char → Option (List Char × List Char)
  | ':' :: ':' :: rest => some ([], rest)
  | c :: rest => (splitAtGap rest).map fun (before, after) => (c :: before, after)
  | [] => none

/-- Reads an address of eight words. One gap `::` stands for words that are zero. -/
def readAddress (cs : List Char) : Option (List Nat) :=
  match splitAtGap cs with
  | none => (readWords cs).bind fun words => if words.length = 8 then some words else none
  | some (before, after) => do
    if before.contains '.' then none
    else
      let front ← readWords before
      let back ← readWords after
      if 7 < front.length + back.length then none
      else some (front ++ List.replicate (8 - front.length - back.length) 0 ++ back)

/-- Where the first longest run of zeros begins, and its length. -/
def longestZeros (words : List Nat) : Nat × Nat :=
  (List.range words.length).foldl
    (fun best start =>
      let length := ((words.drop start).takeWhile (· == 0)).length
      if best.2 < length then (start, length) else best)
    (0, 0)

/-- Words in hexadecimal with colons between them. -/
def writeWords (words : List Nat) : List Char :=
  [':'].intercalate (words.map (Nat.toDigits 16))

/-- An address of eight words, with a gap for the longest run of at least two zeros. -/
def writeAddress (words : List Nat) : List Char :=
  let (start, length) := longestZeros words
  if length < 2 then writeWords words
  else writeWords (words.take start) ++ [':', ':'] ++ writeWords (words.drop (start + length))

/-- Whether a character must not stand in a domain name. -/
def isForbidden (c : Char) : Bool :=
  c.toNat ≤ 0x20 || c.toNat = 0x7f ||
    ['#', '/', ':', '<', '>', '?', '@', '[', '\\', ']', '^', '|', '%'].contains c

/-- A label in ASCII. -/
def labelToAscii (label : List Char) : List Char :=
  if label.all fun c => c.toNat < 0x80 then label
  else ['x', 'n', '-', '-'] ++ Punycode.encode label

/-- A domain name in ASCII and in lower case. -/
def domainToAscii (domain : List Char) : List Char :=
  let lower := Unicode.lowerFrom [] domain
  ['.'].intercalate ((Chars.splitAtChar '.' lower).map labelToAscii)

/-- Reads the host of a URL with a special scheme, and gives it in its one spelling. -/
def read (cs : List Char) : Option (List Char) :=
  match cs with
  | '[' :: rest =>
    if rest.getLast? = some ']' then
      (readAddress rest.dropLast).map fun words => '[' :: writeAddress words ++ [']']
    else none
  | _ =>
    let domain := domainToAscii (Utf8.decode (Percent.decode cs))
    if domain.isEmpty ∨ domain.any isForbidden then none
    else if endsInNumber domain then (readBytes domain).map writeBytes
    else some domain

/-- Reads the host of a URL with another scheme, which is not interpreted. -/
def readOpaque (cs : List Char) : Option (List Char) :=
  match cs with
  | '[' :: _ => read cs
  | _ =>
    if cs.any fun c => c ≠ '%' ∧ 0x7f ≠ c.toNat ∧ (0x1f < c.toNat ∨ c.toNat = 0) ∧ isForbidden c
    then none
    else some (Percent.encode Percent.isControl cs)

end TrackedComments.Host

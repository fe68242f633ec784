import TrackedComments.Text.Utf8

/-!
# Percent encoding

In a URL, a byte that must not stand for itself is written as `%` and two hexadecimal digits. Which
bytes these are depends on the part of the URL; bytes beyond ASCII are among them everywhere.
-/

namespace TrackedComments.Percent

/-- The bytes that are control characters, or beyond ASCII. -/
def isControl (b : UInt8) : Bool :=
  b < 0x20 || 0x7e < b

/-- Whether a byte is one of the given characters. -/
def isOneOf (chars : List Char) (b : UInt8) : Bool :=
  chars.any fun c => c.toNat == b.toNat

/-- The bytes that are encoded in a fragment. -/
def inFragment (b : UInt8) : Bool :=
  isControl b || isOneOf [' ', '"', '<', '>', '`'] b

/-- The bytes that are encoded in a path. -/
def inPath (b : UInt8) : Bool :=
  inFragment b || isOneOf ['#', '?', '\x7b', '\x7d'] b

/-- The bytes that are encoded in a query. -/
def inQuery (b : UInt8) : Bool :=
  isControl b || isOneOf [' ', '"', '#', '<', '>'] b

/-- The bytes that are encoded in a query of a scheme that is special. -/
def inSpecialQuery (b : UInt8) : Bool :=
  inQuery b || isOneOf ['\''] b

/-- A hexadecimal digit in upper case. -/
def digitChar (n : Nat) : Char :=
  (Nat.digitChar n).toUpper

/-- A byte as `%` and two digits. -/
def encodeByte (b : UInt8) : List Char :=
  ['%', digitChar (b.toNat / 16), digitChar (b.toNat % 16)]

/-- A text with the bytes that satisfy a condition encoded. -/
def encode (isEncoded : UInt8 → Bool) (cs : List Char) : List Char :=
  (cs.flatMap String.utf8EncodeChar).flatMap fun b =>
    if isEncoded b then encodeByte b else [Char.ofNat b.toNat]

/-- The value of a hexadecimal digit. -/
def hexValue? (c : Char) : Option Nat :=
  if c.isDigit then some (c.toNat - '0'.toNat)
  else
    let c := c.toLower
    if 'a' ≤ c ∧ c ≤ 'f' then some (c.toNat - 'a'.toNat + 10) else none

/-- The bytes of a text with its encoded bytes decoded. A `%` without two digits stands for
itself. -/
def decode : List Char → List UInt8
  | [] => []
  | [c] => String.utf8EncodeChar c
  | [c, d] => String.utf8EncodeChar c ++ decode [d]
  | c :: d :: e :: rest =>
    match c == '%', hexValue? d, hexValue? e with
    | true, some high, some low => UInt8.ofNat (high * 16 + low) :: decode rest
    | _, _, _ => String.utf8EncodeChar c ++ decode (d :: e :: rest)

end TrackedComments.Percent

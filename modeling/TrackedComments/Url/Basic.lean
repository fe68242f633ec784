import TrackedComments.Url.Host

/-!
# URLs

A URL is read the way browsers do: blanks around it are dropped, a scheme that is known has a host,
the dot segments of its path are resolved, and what must not stand for itself is encoded. The result
is written in one spelling. A name and a password before the host are no part of it.
-/

namespace TrackedComments

/-- A URL in its parts. -/
structure Url where
  scheme : List Char
  /-- The host, if the URL has one. -/
  host : Option (List Char)
  /-- The port, unless it is that of the scheme. -/
  port : Option Nat
  path : List Char
  query : Option (List Char)
  fragment : Option (List Char)
  deriving DecidableEq, Repr, Inhabited

namespace Url

/-- The schemes with hosts and paths, and their ports. -/
def specialSchemes : List (String × Option Nat) :=
  [("http", some 80), ("https", some 443), ("ws", some 80), ("wss", some 443), ("ftp", some 21),
    ("file", none)]

/-- Whether a scheme is one of those with hosts and paths. -/
def isSpecial (scheme : List Char) : Bool :=
  specialSchemes.any fun (name, _) => name.toList == scheme

/-- The port of a scheme. -/
def defaultPort? (scheme : List Char) : Option Nat :=
  (specialSchemes.find? fun (name, _) => name.toList == scheme).bind Prod.snd

/-- The URL as text. -/
def toChars (u : Url) : List Char :=
  u.scheme ++ [':'] ++
    (match u.host with
      | none => []
      | some host =>
        ['/', '/'] ++ host ++
          match u.port with
          | none => []
          | some port => ':' :: Nat.toDigits 10 port) ++
    u.path ++
    (match u.query with
      | none => []
      | some query => '?' :: query) ++
    match u.fragment with
    | none => []
    | some fragment => '#' :: fragment

/-- The URL as text. -/
def toString (u : Url) : String :=
  String.ofList u.toChars

/-- Whether a path segment stands for the directory that it is in. -/
def isDot (segment : List Char) : Bool :=
  let segment := segment.map Char.toLower
  segment == ['.'] || segment == ['%', '2', 'e']

/-- Whether a path segment stands for the directory above. -/
def isDotDot (segment : List Char) : Bool :=
  let segment := segment.map Char.toLower
  segment == ['.', '.'] || segment == ['.', '%', '2', 'e'] || segment == ['%', '2', 'e', '.'] ||
    segment == ['%', '2', 'e', '%', '2', 'e']

/-- The segments of a path without dot segments; `before` are those in front, in reverse. A dot
segment at the end leaves an empty one. -/
def resolveDots (before : List (List Char)) : List (List Char) → List (List Char)
  | [] => before.reverse
  | segment :: rest =>
    let before' :=
      if isDotDot segment then before.tail
      else if isDot segment then before
      else segment :: before
    if rest.isEmpty && (isDotDot segment || isDot segment) then ([] :: before').reverse
    else resolveDots before' rest

/-- The path for a text. -/
def readPath (special : Bool) (cs : List Char) : List Char :=
  let isSeparator (c : Char) : Bool := c == '/' || (special && c == '\\')
  match cs with
  | [] => if special then ['/'] else []
  | c :: rest =>
    let segments := Chars.splitWhen isSeparator (if isSeparator c then rest else cs)
    (resolveDots [] segments).flatMap fun segment => '/' :: Percent.encode Percent.inPath segment

/-- Reads the port after a colon. -/
def readPort (scheme cs : List Char) : Option (Option Nat) :=
  if cs.isEmpty then some none
  else if cs.all Char.isDigit then
    let n := Nat.ofDigitChars 10 cs 0
    if 65535 < n then none
    else some (if some n = defaultPort? scheme then none else some n)
  else none

/-- The host and the port of a text, which end at the last colon outside of brackets. -/
def splitPort (cs : List Char) : List Char × Option (List Char) :=
  match cs with
  | '[' :: _ =>
    let inside := cs.takeWhile (· != ']')
    match cs.drop inside.length with
    | ']' :: ':' :: port => (inside ++ [']'], some port)
    | _ => (cs, none)
  | _ =>
    match Chars.splitOnce ':' cs with
    | some (host, port) => (host, some port)
    | none => (cs, none)

/-- The text after the last `@`. -/
def dropCredentials (cs : List Char) : List Char :=
  (cs.reverse.takeWhile (· != '@')).reverse

/-- Reads the host and the port. -/
def readAuthority (scheme cs : List Char) : Option (List Char × Option Nat) := do
  let (host, port) := splitPort (dropCredentials cs)
  let port ← readPort scheme (port.getD [])
  if isSpecial scheme then
    if host.isEmpty ∧ scheme = "file".toList then some ([], none)
    else
      let host ← Host.read host
      some (host, port)
  else
    let host ← Host.readOpaque host
    some (host, port)

/-- Cuts the fragment and the query off. -/
def splitTail (cs : List Char) : List Char × Option (List Char) × Option (List Char) :=
  let (cs, fragment) :=
    match Chars.splitOnce '#' cs with
    | some (before, fragment) => (before, some fragment)
    | none => (cs, none)
  match Chars.splitOnce '?' cs with
  | some (path, query) => (path, some query, fragment)
  | none => (cs, none, fragment)

/-- Reads what follows the scheme and its colon. -/
def readRest (scheme cs : List Char) : Option Url := do
  let special := isSpecial scheme
  let (hierarchy, query, fragment) := splitTail cs
  let inQuery := if special then Percent.inSpecialQuery else Percent.inQuery
  let query := query.map (Percent.encode inQuery)
  let fragment := fragment.map (Percent.encode Percent.inFragment)
  let isSeparator (c : Char) : Bool := c == '/' || (special && c == '\\')
  let slashes := (hierarchy.takeWhile isSeparator).length
  let hasAuthority := if special then scheme ≠ "file".toList ∨ 2 ≤ slashes else 2 ≤ slashes
  if hasAuthority then
    let afterSlashes :=
      if special ∧ scheme ≠ "file".toList then hierarchy.drop slashes else hierarchy.drop 2
    let authority := afterSlashes.takeWhile fun c => !isSeparator c
    let path := afterSlashes.drop authority.length
    let (host, port) ← readAuthority scheme authority
    some { scheme, host := some host, port, path := readPath special path, query, fragment }
  else if special ∨ 1 ≤ slashes then
    let host := if special then some [] else none
    some { scheme, host, port := none, path := readPath special hierarchy, query, fragment }
  else
    some { scheme, host := none, port := none,
           path := Percent.encode Percent.isControl hierarchy, query, fragment }

/-- Whether a character is dropped at the ends of a URL. -/
def isOuterBlank (c : Char) : Bool := c.toNat ≤ 0x20

/-- Whether a character is dropped everywhere in a URL. -/
def isLineBlank (c : Char) : Bool := c == '\t' || c == '\n' || c == '\r'

/-- Reads a URL. One without a scheme, or with a host or a port that cannot be, is none. -/
def ofChars? (cs : List Char) : Option Url :=
  let trimmed := ((cs.dropWhile isOuterBlank).reverse.dropWhile isOuterBlank).reverse
  let cs := trimmed.filter fun c => !isLineBlank c
  let isSchemeChar (c : Char) : Bool :=
    c.isAlphanum || c == '+' || c == '-' || c == '.'
  let scheme := cs.takeWhile isSchemeChar
  match scheme, cs.drop scheme.length with
  | first :: _, ':' :: rest =>
    if first.isAlpha then readRest (scheme.map Char.toLower) rest else none
  | _, _ => none

/-- Whether a URL names a host. -/
def hasHost (u : Url) : Bool :=
  u.host.any fun host => !host.isEmpty

end Url

end TrackedComments

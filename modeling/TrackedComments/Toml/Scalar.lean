import TrackedComments.Text.Split
import TrackedComments.Toml.Text
import TrackedComments.Toml.Value

/-!
# Numbers, dates and truth values of TOML

A scalar is a run of letters, digits and a few signs. Its form tells what it is: `true`, an integer
in one of four bases, a number with a fraction or an exponent, a date or a time.
-/

namespace TrackedComments.Toml

/-- Reads digits with single underscores between them. -/
def readDigits (isDigit : Char → Bool) (cs : List Char) : Option (List Char × List Char) :=
  let run := cs.takeWhile fun c => isDigit c || c == '_'
  let groups := Chars.splitAtChar '_' run
  if groups.any List.isEmpty then none else some (groups.flatten, cs.drop run.length)

/-- The value of digits in a base. -/
def digitsValue (base : Nat) (digits : List Char) : Nat :=
  digits.foldl (fun n c => n * base + (hexValue? c).getD 0) 0

/-- An integer in a base other than ten. -/
def readBased? (base : Nat) (cs : List Char) : Option Value :=
  match readDigits (fun c => (hexValue? c).any (· < base)) cs with
  | some (digits, []) => some (.integer (digitsValue base digits))
  | _ => none

/-- Whether digits followed by a number of zeros, or with so many of them after the point, are
within the range of binary numbers of 64 bits. -/
def isInRange (digits : List Char) (exponent : Int) : Bool :=
  let m := digitsValue 10 digits
  let bound := Nat.pow 2 1024 - Nat.pow 2 970
  let size : Int := (Nat.toDigits 10 m).length + exponent
  if m = 0 ∨ size < 309 then true
  else if 309 < size then false
  else if 0 ≤ exponent then m * Nat.pow 10 exponent.toNat < bound
  else m < bound * Nat.pow 10 (-exponent).toNat

/-- Reads the fraction of a number: its digits, none without a point. -/
def readFraction? : List Char → Option (List Char × List Char)
  | '.' :: rest => readDigits Char.isDigit rest
  | rest => some ([], rest)

/-- Reads the exponent of a number, zero if there is none. -/
def readExponent? : List Char → Option (Int × List Char)
  | c :: rest =>
    if c = 'e' ∨ c = 'E' then
      let (negative, rest) : Bool × List Char :=
        match rest with
        | '-' :: rest => (true, rest)
        | '+' :: rest => (false, rest)
        | _ => (false, rest)
      (readDigits Char.isDigit rest).map fun (digits, rest) =>
        let n : Int := digitsValue 10 digits
        (if negative then -n else n, rest)
    else some (0, c :: rest)
  | [] => some (0, [])

/-- A number in base ten without its sign. Only a single zero may begin with a zero. -/
def readDecimal? (negative : Bool) (cs : List Char) : Option Value := do
  let (digits, rest) ← readDigits Char.isDigit cs
  if digits.head? = some '0' ∧ digits.length ≠ 1 then none
  else if rest.isEmpty then
    let n : Int := digitsValue 10 digits
    some (.integer (if negative then -n else n))
  else
    let (fraction, rest) ← readFraction? rest
    let (exponent, rest) ← readExponent? rest
    if rest.isEmpty then
      some (.float (isInRange (digits ++ fraction) (exponent - fraction.length)))
    else none

/-- A number with or without a sign. -/
def readNumber? (cs : List Char) : Option Value :=
  let (signed, negative, digits) : Bool × Bool × List Char :=
    match cs with
    | '+' :: rest => (true, false, rest)
    | '-' :: rest => (true, true, rest)
    | _ => (false, false, cs)
  if digits = ['i', 'n', 'f'] ∨ digits = ['n', 'a', 'n'] then some (.float true)
  else
    match signed, digits with
    | false, '0' :: 'x' :: rest => readBased? 16 rest
    | false, '0' :: 'o' :: rest => readBased? 8 rest
    | false, '0' :: 'b' :: rest => readBased? 2 rest
    | _, _ => readDecimal? negative digits

/-- Reads a fixed number of digits. -/
def readFixed (count : Nat) (cs : List Char) : Option (Nat × List Char) :=
  let digits := cs.take count
  if digits.length = count ∧ digits.all Char.isDigit then
    some (digitsValue 10 digits, cs.drop count)
  else none

/-- Whether a year has a 29th of February. -/
def isLeapYear (year : Nat) : Bool :=
  year % 4 = 0 && (year % 100 ≠ 0 || year % 400 = 0)

/-- How many days a month has. -/
def daysIn (year month : Nat) : Nat :=
  if month = 2 then (if isLeapYear year then 29 else 28)
  else if month = 4 ∨ month = 6 ∨ month = 9 ∨ month = 11 then 30
  else 31

/-- Reads a date and gives what follows it. -/
def readDate? (cs : List Char) : Option (List Char) := do
  match ← readFixed 4 cs with
  | (year, '-' :: rest) =>
    match ← readFixed 2 rest with
    | (month, '-' :: rest) =>
      let (day, rest) ← readFixed 2 rest
      if 1 ≤ month ∧ month ≤ 12 ∧ 1 ≤ day ∧ day ≤ daysIn year month then some rest else none
    | _ => none
  | _ => none

/-- Reads hours and minutes and gives what follows them. -/
def readClock? (cs : List Char) : Option (List Char) := do
  match ← readFixed 2 cs with
  | (hour, ':' :: rest) =>
    let (minute, rest) ← readFixed 2 rest
    if hour < 24 ∧ minute < 60 then some rest else none
  | _ => none

/-- Reads a time, with or without seconds and their fraction, and gives what follows it. -/
def readTime? (cs : List Char) : Option (List Char) := do
  match ← readClock? cs with
  | ':' :: rest =>
    let (second, rest) ← readFixed 2 rest
    if 60 < second then none
    else
      match rest with
      | '.' :: fraction =>
        if fraction.head?.any Char.isDigit then some (fraction.dropWhile Char.isDigit) else none
      | _ => some rest
  | rest => some rest

/-- Whether a text is empty or the distance from the time of the zero meridian. -/
def isOffset : List Char → Bool
  | [] => true
  | ['Z'] => true
  | ['z'] => true
  | '+' :: rest => readClock? rest == some []
  | '-' :: rest => readClock? rest == some []
  | _ => false

/-- Whether a text is a date, a time or both. -/
def isDatetime (cs : List Char) : Bool :=
  match readDate? cs with
  | some [] => true
  | some (c :: rest) =>
    (c == 'T' || c == 't' || c == ' ') && (readTime? rest).any isOffset
  | none => readTime? cs == some []

/-- Whether a text begins like a date. -/
def beginsWithDate (cs : List Char) : Bool :=
  match readFixed 4 cs with
  | some (_, '-' :: _) => true
  | _ => false

/-- Whether a text begins like a time. -/
def beginsWithTime (cs : List Char) : Bool :=
  match readFixed 2 cs with
  | some (_, ':' :: _) => true
  | _ => false

/-- The value of a scalar. -/
def scalarValue? (cs : List Char) : Option Value :=
  if cs = ['t', 'r', 'u', 'e'] then some (.boolean true)
  else if cs = ['f', 'a', 'l', 's', 'e'] then some (.boolean false)
  else if beginsWithDate cs ∨ beginsWithTime cs then
    if isDatetime cs then some .datetime else none
  else readNumber? cs

/-- Whether a character may stand in a scalar. -/
def isScalarChar (c : Char) : Bool :=
  c.isAlphanum || c == '_' || c == '+' || c == '-' || c == '.' || c == ':'

/-- Reads a scalar. A blank may stand between a date and a time. -/
def readScalar? (cs : List Char) : Option (Value × List Char) :=
  let run := cs.takeWhile isScalarChar
  let rest := cs.drop run.length
  let (run, rest) :=
    match readDate? run, rest with
    | some [], ' ' :: d :: more =>
      if d.isDigit then
        let time := (d :: more).takeWhile isScalarChar
        (run ++ ' ' :: time, (d :: more).drop time.length)
      else (run, rest)
    | _, _ => (run, rest)
  (scalarValue? run).map fun value => (value, rest)

end TrackedComments.Toml

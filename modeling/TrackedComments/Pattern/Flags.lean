/-!
# Flags

The flags that a pattern can switch on and off for the rest of a group.
-/

namespace TrackedComments.Pattern

/-- How the notation of a pattern is read from some point on. -/
structure Flags where
  /-- `i`: letters match whatever their case. -/
  ignoreCase : Bool := false
  /-- `m`: the anchors match at lines. -/
  multiLine : Bool := false
  /-- `s`: the dot matches line feeds too. -/
  dotAll : Bool := false
  /-- `U`: repetitions are lazy unless marked. -/
  swapGreed : Bool := false
  /-- `u`: classes and case mean those of Unicode. -/
  unicode : Bool := true
  /-- `R`: a carriage return ends a line too. -/
  crlf : Bool := false
  /-- `x`: blanks and comments are no part of the pattern. -/
  verbose : Bool := false
  deriving DecidableEq, Repr, Inhabited

/-- Sets the flag that a letter names, if it names one. -/
def Flags.set? (f : Flags) (letter : Char) (value : Bool) : Option Flags :=
  match letter with
  | 'i' => some { f with ignoreCase := value }
  | 'm' => some { f with multiLine := value }
  | 's' => some { f with dotAll := value }
  | 'U' => some { f with swapGreed := value }
  | 'u' => some { f with unicode := value }
  | 'R' => some { f with crlf := value }
  | 'x' => some { f with verbose := value }
  | _ => none

end TrackedComments.Pattern

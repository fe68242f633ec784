import TrackedComments.Pattern.ScanPattern
import TrackedComments.Source.Basic

/-!
# Reads in flight

A scan keeps a bounded number of reads in flight. They may complete in any order, but their results
are handed on in the order of the files: a result waits in the window until all files before it
have theirs. The order in which reads complete is a parameter, a number for every round that
chooses among the reads that have not completed.
-/

namespace TrackedComments

/-- What became of a file: its records, or why it has no text. -/
abbrev ScanOutcome := Except SourceFault (List CommentRecord)

/-- The state of a scan between two rounds. -/
structure ReadWindow where
  /-- The files whose reads have not started. -/
  waiting : List String
  /-- The files whose reads have started, with the outcomes of those that have completed. -/
  inFlight : List (String × Option ScanOutcome)
  /-- The outcomes that have been handed on, the last one first. -/
  finished : List (String × ScanOutcome)
  deriving Inhabited

namespace ReadWindow

/-- The state before the first round. -/
def start (files : List String) : ReadWindow := ⟨files, [], []⟩

/-- Starts reads until the window is full. -/
def refill (size : Nat) (w : ReadWindow) : ReadWindow :=
  let room := size - w.inFlight.length
  { w with
    waiting := w.waiting.drop room
    inFlight := w.inFlight ++ (w.waiting.take room).map fun file => (file, none) }

/-- Completes the read with an index among those that have not completed. -/
def completeAt (read : String → ScanOutcome) :
    Nat → List (String × Option ScanOutcome) → List (String × Option ScanOutcome)
  | _, [] => []
  | index, (file, some outcome) :: rest => (file, some outcome) :: completeAt read index rest
  | 0, (file, none) :: rest => (file, some (read file)) :: rest
  | index + 1, (file, none) :: rest => (file, none) :: completeAt read index rest

/-- How many reads have not completed. -/
def pendingCount (w : ReadWindow) : Nat :=
  w.inFlight.countP (·.2.isNone)

/-- Completes one read, if there is one to complete. -/
def complete (read : String → ScanOutcome) (choice : Nat) (w : ReadWindow) : ReadWindow :=
  { w with inFlight := completeAt read (choice % w.pendingCount) w.inFlight }

/-- Hands on the outcomes at the front of a window. -/
def handOnFrom (finished : List (String × ScanOutcome)) :
    List (String × Option ScanOutcome) →
      List (String × ScanOutcome) × List (String × Option ScanOutcome)
  | (file, some outcome) :: rest => handOnFrom ((file, outcome) :: finished) rest
  | rest => (finished, rest)

/-- Hands on the outcomes at the front of the window. -/
def handOn (w : ReadWindow) : ReadWindow :=
  let (finished, inFlight) := handOnFrom w.finished w.inFlight
  { w with finished, inFlight }

/-- One round: the window is filled, one read completes, and what can be handed on is. -/
def round (size : Nat) (read : String → ScanOutcome) (choice : Nat) (w : ReadWindow) :
    ReadWindow :=
  ((w.refill size).complete read choice).handOn

/-- Runs a number of rounds. -/
def run (size : Nat) (read : String → ScanOutcome) (choices : Nat → Nat) :
    Nat → ReadWindow → ReadWindow
  | 0, w => w
  | rounds + 1, w => run size read choices rounds (w.round size read (choices rounds))

end ReadWindow

/-- The outcomes of all files in their order, read with a window of the given size. One round for
each file completes all reads. -/
def readAll (size : Nat) (read : String → ScanOutcome) (choices : Nat → Nat)
    (files : List String) : List (String × ScanOutcome) :=
  (ReadWindow.run size read choices files.length (.start files)).finished.reverse

end TrackedComments

import TrackedComments.Pattern.ScanPattern
import TrackedComments.Tracker.Error

/-!
# Failures

What a caller has to act on: a bad configuration, a scan that could not list the files, a state
that could not be saved, a comment that cannot be linked, a failed write-back, or a failure of the
tracker. Failures to read single files are no failures of a scan.

## Main results

* `Error.not_isRecoverable_of_requiresReconfigure`: no failure is both worth a retry and in need of
  other settings.
-/

namespace TrackedComments

/-- A failure of an operation. -/
inductive Error where
  /-- The configuration could not be read or written. -/
  | config (message : String) (path : Option String)
  /-- A setting has a value that it must not have. -/
  | invalidConfig (field reason : String)
  /-- The scan pattern is refused. -/
  | invalidPattern (pattern : String) (fault : PatternFault)
  /-- The files could not be listed. -/
  | scan (message : String)
  /-- The state file could not be written. -/
  | stateSave (path message : String)
  /-- No record has the identity. -/
  | commentNotFound (file : String) (line : UInt32)
  /-- The line does not read as it did when it was scanned. -/
  | staleComment (file : String) (line : UInt32)
  /-- The comment is linked to an issue already. -/
  | alreadyLinked (file : String) (line : UInt32) (number : UInt64)
  /-- The marker could not be written into the source file. -/
  | writeBack (file : String) (line : UInt32) (message : String)
  /-- The issue tracker failed. -/
  | tracker (error : TrackerError)
  /-- Any other file operation failed. -/
  | io (message : String)
  /-- Anything else. -/
  | other (message : String)
  deriving DecidableEq, Repr, Inhabited

namespace Error

/-- A file and a line as they are shown. -/
def place (file : String) (line : UInt32) : String :=
  file ++ ":" ++ toString line.toNat

/-- The failure in words. -/
def message : Error → String
  | config message _ => "Configuration error: " ++ message
  | invalidConfig field reason => "Invalid configuration: " ++ field ++ " - " ++ reason
  | invalidPattern pattern fault => "Invalid pattern '" ++ pattern ++ "': " ++ fault.message
  | scan message => "Scan failed: " ++ message
  | stateSave path message => "Failed to save state to " ++ path ++ ": " ++ message
  | commentNotFound file line => "No comment found at " ++ place file line
  | staleComment file line => "Comment at " ++ place file line ++ " changed since the last scan"
  | alreadyLinked file line number =>
    "Comment at " ++ place file line ++ " is already linked to issue #" ++ toString number.toNat
  | writeBack file line message =>
    "Failed to write issue marker to " ++ place file line ++ ": " ++ message
  | tracker error => error.message
  | io message => message
  | other message => message

/-- Whether the same operation may succeed when it is tried again. -/
def isRecoverable : Error → Bool
  | scan _ | stateSave _ _ | writeBack _ _ _ | tracker (.remote _) => true
  | _ => false

/-- Whether settings or credentials have to be changed first. -/
def requiresReconfigure : Error → Bool
  | config _ _ | invalidConfig _ _ | invalidPattern _ _ => true
  | tracker (.notConfigured _) | tracker (.authentication _) => true
  | _ => false

/-- The exit code of a program that ends with the failure. -/
def exitCode : Error → Nat
  | config _ _ | invalidConfig _ _ | invalidPattern _ _ => 7
  | tracker (.notConfigured _) => 3
  | tracker (.authentication _) => 4
  | tracker (.remote _) => 5
  | commentNotFound _ _ | staleComment _ _ | alreadyLinked _ _ _ => 2
  | _ => 1

/-- No failure is both worth a retry and in need of other settings. -/
theorem not_isRecoverable_of_requiresReconfigure {e : Error} (h : e.requiresReconfigure) :
    e.isRecoverable = false := by
  unfold requiresReconfigure at h
  split at h <;> simp_all [isRecoverable]

end Error

end TrackedComments

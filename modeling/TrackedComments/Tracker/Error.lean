/-!
# Failures of issue trackers

A tracker fails because it has not been set up, because it rejects the credentials, or for a
reason of its own that may pass.
-/

namespace TrackedComments

/-- A failure of an issue tracker. -/
inductive TrackerError where
  /-- Settings are missing, whose names are given. -/
  | notConfigured (missing : List String)
  /-- The credentials have been rejected. -/
  | authentication (message : String)
  /-- Any other failure. -/
  | remote (message : String)
  deriving DecidableEq, Repr, Inhabited

/-- The failure in words. -/
def TrackerError.message : TrackerError → String
  | notConfigured missing =>
    "Issue tracker is not configured (missing: " ++ ", ".intercalate missing ++ ")"
  | authentication message => "Authentication failed: " ++ message
  | remote message => "Issue tracker error: " ++ message

end TrackedComments

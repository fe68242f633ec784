import TrackedComments.Tracker.Basic

/-!
# Scripted trackers

A tracker for rehearsals: it answers from a script as long as that lasts, and numbers further
issues on its own. It remembers the comments that it was called with.
-/

namespace TrackedComments

/-- A tracker with prepared answers. -/
structure ScriptedTracker where
  configured : Bool := true
  /-- The answers to the next calls. -/
  script : List (Except TrackerError IssueInfo) := []
  /-- The number of the next issue that the script says nothing about. -/
  nextNumber : UInt32 := 1
  /-- The comments of all calls, the last one first. -/
  received : List CommentRecord := []
  deriving Inhabited

namespace ScriptedTracker

/-- The settings that are missing when the tracker is not configured. -/
def missing (t : ScriptedTracker) : List String :=
  if t.configured then [] else ["github.owner", "token"]

/-- The comments of all calls in their order. -/
def calls (t : ScriptedTracker) : List CommentRecord := t.received.reverse

/-- The issue with a number. -/
def numbered (number : UInt32) : IssueInfo :=
  { number := number.toUInt64
    url := "https://api.example.test/issues/" ++ toString number.toNat
    htmlUrl := "https://example.test/issues/" ++ toString number.toNat }

/-- Answers a call. A tracker that is not configured leaves its script alone. -/
def create (t : ScriptedTracker) (comment : CommentRecord) :
    Except TrackerError IssueInfo × ScriptedTracker :=
  let t := { t with received := comment :: t.received }
  if t.configured then
    match t.script with
    | answer :: script => (answer, { t with script })
    | [] => (.ok (numbered t.nextNumber), { t with nextNumber := t.nextNumber + 1 })
  else (.error (.notConfigured t.missing), t)

/-- The address of a line at a reference. -/
def blobUrl (t : ScriptedTracker) (reference file : String) (line : UInt32) :
    Except TrackerError String :=
  if t.configured then
    .ok ("https://example.test/blob/" ++ reference ++ "/" ++ file ++ "#L" ++ toString line.toNat)
  else .error (.notConfigured t.missing)

end ScriptedTracker

instance : IssueTracker ScriptedTracker where
  missingSettings := ScriptedTracker.missing
  createIssue t tree comment :=
    let (result, t) := t.create comment
    (result, t, tree)
  remoteUrl t := t.blobUrl "main"
  permalink t := t.blobUrl "0000000"

end TrackedComments

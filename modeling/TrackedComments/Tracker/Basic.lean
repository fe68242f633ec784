import TrackedComments.FileTree.Basic
import TrackedComments.Record
import TrackedComments.Tracker.Error

/-!
# Issue trackers

A tracker creates issues for comments and knows the address of a line of a file. Creating an issue
takes time in which files may change, so a tracker is given the tree of files and gives it back.
-/

namespace TrackedComments

/-- The operations of an issue tracker with states of a type. -/
class IssueTracker (τ : Type) where
  /-- The names of the settings that are missing. -/
  missingSettings : τ → List String
  /-- Creates an issue for a comment. -/
  createIssue : τ → FileTree → CommentRecord → Except TrackerError IssueInfo × τ × FileTree
  /-- The address of a line on the branch that is worked on. -/
  remoteUrl : τ → String → UInt32 → Except TrackerError String
  /-- The address of a line that stays the same when the branch moves on. -/
  permalink : τ → String → UInt32 → Except TrackerError String

/-- Whether a tracker misses no settings. -/
def IssueTracker.isConfigured {τ : Type} [IssueTracker τ] (tracker : τ) : Bool :=
  (missingSettings tracker).isEmpty

end TrackedComments

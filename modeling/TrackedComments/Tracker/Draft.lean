import TrackedComments.Record

/-!
# Drafts of issues

What an issue for a comment says: the title is the beginning of the message, every pair of the
metadata is a label, and the body quotes the comment and tells where it stands.
-/

namespace TrackedComments

/-- What a new issue says. -/
structure IssueDraft where
  title : String
  body : String
  labels : List String
  deriving DecidableEq, Repr, Inhabited

namespace IssueDraft

/-- How many characters of a message the title shows. -/
def titleLength : Nat := 100

/-- The label for a pair of the metadata. -/
def label (pair : String × String) : String :=
  pair.1 ++ ":" ++ pair.2

/-- The body of the issue for a comment. -/
def bodyOf (r : CommentRecord) : String :=
  "**File:** `" ++ r.file ++ "`\n**Line:** " ++ toString r.line.toNat ++
    "\n\n**Original comment:**\n```\n" ++ r.text ++ "\n```\n\n**Description:**\n" ++ r.message ++
    "\n\n---\n_Created automatically by comment-to-issue_"

/-- The draft for a comment. -/
def ofComment (r : CommentRecord) : IssueDraft :=
  { title := String.ofList (r.message.toList.take titleLength)
    body := bodyOf r
    labels := r.metadata.entries.map label }

end IssueDraft

end TrackedComments

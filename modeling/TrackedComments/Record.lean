import TrackedComments.Metadata
import TrackedComments.Marker

/-!
# Comment records

A record describes one annotated comment. Its identity is the file and the line: a scan builds all
records anew, and what is known about a comment from before is found again by its identity.
-/

namespace TrackedComments

/-- An annotated comment of a workspace. -/
structure CommentRecord where
  /-- The path below the workspace, with `/` between its parts. -/
  file : String
  /-- The number of the line, from 1. -/
  line : UInt32
  /-- The line without the blanks at its ends. -/
  text : String
  /-- What the comment says. -/
  message : String
  metadata : Metadata := .empty
  /-- The issue that the comment is linked to. -/
  issueNumber : Option UInt64 := none
  deriving DecidableEq, Inhabited

namespace CommentRecord

/-- Whether the record has an identity. -/
def isAt (r : CommentRecord) (file : String) (line : UInt32) : Bool :=
  r.file == file && r.line == line

/-- Whether the text of the record carries a marker that gives a number. -/
def hasMarker (r : CommentRecord) : Bool :=
  (Marker.find? r.text.toList).isSome

/-- The record linked to an issue. -/
def withIssue (r : CommentRecord) (number : UInt64) : CommentRecord :=
  { r with issueNumber := some number }

end CommentRecord

/-- An issue that a tracker has created. -/
structure IssueInfo where
  number : UInt64
  /-- The address of the issue for programs. -/
  url : String
  /-- The address of the issue for people. -/
  htmlUrl : String
  deriving DecidableEq, Repr, Inhabited

/-- Links the records with an identity to an issue. -/
def linkIssue (records : List CommentRecord) (file : String) (line : UInt32) (number : UInt64) :
    List CommentRecord :=
  records.map fun r => if r.isAt file line then r.withIssue number else r

/-- Changes the first record with an identity. -/
def modifyFirst (file : String) (line : UInt32) (f : CommentRecord → CommentRecord) :
    List CommentRecord → List CommentRecord
  | [] => []
  | r :: rest => if r.isAt file line then f r :: rest else r :: modifyFirst file line f rest

/-- The number that a saved list knows for an identity. The last record there counts, and only if
its text carries no marker: a number that was read from a marker is gone when the marker is. -/
def rememberedIssue (saved : List CommentRecord) (file : String) (line : UInt32) : Option UInt64 :=
  match saved.reverse.find? (·.isAt file line) with
  | none => none
  | some previous => if previous.hasMarker then none else previous.issueNumber

/-- Gives records without a number the one that a saved list remembers. -/
def reconcile (fresh saved : List CommentRecord) : List CommentRecord :=
  fresh.map fun r =>
    match r.issueNumber with
    | some _ => r
    | none => { r with issueNumber := rememberedIssue saved r.file r.line }

end TrackedComments

import TrackedComments.Record
import TrackedComments.Unicode.Case

/-!
# Comment trees

The records of a workspace as a tree of two levels: the files, and the comments of each file. Two
files with the same name in different directories are two nodes. A counter moves whenever the tree
may look different, and subscribers compare it with the value that they saw last.
-/

namespace TrackedComments

/-- The records that a tree shows. -/
structure CommentTree where
  comments : List CommentRecord := []
  /-- Whether files are ordered without regard to case. -/
  caseInsensitive : Bool := false
  /-- Moves with every change. -/
  generation : Nat := 0
  deriving DecidableEq, Inhabited

/-- The node of a file. -/
structure FileNode where
  /-- The path of the file, which tells it from all others. -/
  path : String
  /-- What follows the last separator of the path. -/
  name : String
  /-- What precedes the last separator of the path. -/
  directory : String
  /-- How many comments the file has. -/
  count : Nat
  deriving DecidableEq, Repr, Inhabited

/-- A node of a tree. -/
inductive TreeNode where
  | file (node : FileNode)
  | comment (record : CommentRecord)
  deriving DecidableEq, Inhabited

/-- One who wants to know about changes of a tree. -/
structure Subscriber where
  /-- The generation that was seen last. -/
  seen : Nat
  deriving DecidableEq, Repr, Inhabited

/-- The directory and the name of a path. -/
def splitPath (path : String) : String × String :=
  let reversed := path.toList.reverse
  (String.ofList ((reversed.dropWhile (· != '/')).drop 1).reverse,
    String.ofList (reversed.takeWhile (· != '/')).reverse)

namespace FileNode

/-- The node of a file with a number of comments. -/
def ofPath (path : String) (count : Nat) : FileNode :=
  let (directory, name) := splitPath path
  { path, name, directory, count }

/-- The text that the node shows. -/
def label (n : FileNode) : String :=
  n.name ++ " (" ++ toString n.count ++ ")"

/-- The text by which the node is placed first. -/
def sortName (caseInsensitive : Bool) (n : FileNode) : String :=
  if caseInsensitive then lowercase n.name else n.name

/-- Whether a node may stand before another one. -/
def isBefore (caseInsensitive : Bool) (a b : FileNode) : Bool :=
  let first := a.sortName caseInsensitive
  let second := b.sortName caseInsensitive
  if first = second then a.path ≤ b.path else first < second

end FileNode

namespace CommentRecord

/-- How many characters of a message are shown. -/
def labelLength : Nat := 50

/-- The text that the node of a comment shows. -/
def label (r : CommentRecord) : String :=
  "Line " ++ toString r.line.toNat ++ ": " ++ String.ofList (r.message.toList.take labelLength)

/-- The marker of a linked comment. -/
def description (r : CommentRecord) : String :=
  r.issueNumber.elim "" fun number => String.ofList (Marker.format number)

end CommentRecord

namespace CommentTree

/-- Moves the counter. -/
def refresh (t : CommentTree) : CommentTree :=
  { t with generation := t.generation + 1 }

/-- Shows other records. -/
def setComments (t : CommentTree) (comments : List CommentRecord) : CommentTree :=
  { t with comments }.refresh

/-- The first record with an identity. -/
def find? (t : CommentTree) (file : String) (line : UInt32) : Option CommentRecord :=
  t.comments.find? (·.isAt file line)

/-- Links the first record with an identity to an issue. Without such a record nothing changes. -/
def update (t : CommentTree) (file : String) (line : UInt32) (number : UInt64) :
    Bool × CommentTree :=
  if (t.find? file line).isSome then
    (true, t.setComments (modifyFirst file line (·.withIssue number) t.comments))
  else (false, t)

/-- A subscriber who has seen the tree as it is. -/
def subscribe (t : CommentTree) : Subscriber := ⟨t.generation⟩

/-- Whether the tree has changed since the subscriber looked last, who looks now. -/
def changedFor (t : CommentTree) (s : Subscriber) : Bool × Subscriber :=
  (t.generation != s.seen, ⟨t.generation⟩)

/-- The nodes of the files, by name and then by path. -/
def fileNodes (t : CommentTree) : List FileNode :=
  let paths := (t.comments.map CommentRecord.file).eraseDups
  let nodes := paths.map fun path => FileNode.ofPath path (t.comments.countP (·.file == path))
  nodes.mergeSort (FileNode.isBefore t.caseInsensitive)

/-- The comments of a file by line. Those on the same line keep their order. -/
def commentsOf (t : CommentTree) (path : String) : List CommentRecord :=
  (t.comments.filter (·.file == path)).mergeSort fun a b => a.line ≤ b.line

/-- The nodes at the top of the tree. -/
def roots (t : CommentTree) : List TreeNode :=
  t.fileNodes.map .file

/-- The nodes below a node. There are none below that of a comment. -/
def children (t : CommentTree) : TreeNode → List TreeNode
  | .file node => (t.commentsOf node.path).map .comment
  | .comment _ => []

end CommentTree

end TrackedComments

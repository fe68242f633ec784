import TrackedComments.Source.Ignore
import TrackedComments.Tracker.References

/-!
# Repositories in a file tree

The files of a repository tell which branch and which commit are worked on: `HEAD` names a branch
or holds a commit, and the commit of a branch stands in a file of its own or in a list of all.
-/

namespace TrackedComments

/-- The text at a location, without the blanks at its ends. -/
def FileTree.trimmedText? (t : FileTree) (loc : Location) : Option (List Char) :=
  match t.get? loc with
  | some (.file content) => (String.fromUTF8? content).map fun text => Chars.trim text.toList
  | _ => none

/-- Where the files of the repository stand that a location lies in. -/
def FileTree.repository? (t : FileTree) (loc : Location) : Option Location :=
  ((loc :: ancestors loc).map (· ++ [".git"])).find? fun dir => t.get? dir = some .directory

namespace References

/-- The commit of a reference in a list of references. -/
def packedCommit? (reference list : List Char) : Option (List Char) :=
  (lines list).findSome? fun line =>
    match Chars.splitOnce ' ' line.body with
    | some (commit, name) => if name = reference then some commit else none
    | none => none

/-- The commit of a reference. -/
def commitOf? (t : FileTree) (repository : Location) (reference : List Char) :
    Option (List Char) :=
  let names := (Chars.splitAtChar '/' reference).map String.ofList
  (t.trimmedText? (repository ++ names)).or
    ((t.trimmedText? (repository ++ ["packed-refs"])).bind (packedCommit? reference))

/-- What the repository of a location says. No branch is worked on if `HEAD` holds a commit. -/
def ofTree (t : FileTree) (loc : Location) : References :=
  match (t.repository? loc).bind fun dir => (t.trimmedText? (dir ++ ["HEAD"])).map (dir, ·) with
  | none => ⟨none, none⟩
  | some (dir, head) =>
    match Path.dropPrefix? "ref: ".toList head with
    | none => ⟨some "", some (String.ofList head)⟩
    | some reference =>
      ⟨(Path.dropPrefix? "refs/heads/".toList reference).map String.ofList,
        (commitOf? t dir reference).map String.ofList⟩

end References

end TrackedComments

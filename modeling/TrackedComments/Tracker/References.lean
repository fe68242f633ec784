import TrackedComments.Text.Space

/-!
# References of a repository

Addresses of lines name a branch or a commit. Where the repository has none to offer, the main
branch stands in.
-/

namespace TrackedComments

/-- What a repository says about its state. -/
structure References where
  /-- The current branch, unless the question failed. -/
  branch : Option String
  /-- The current commit, unless the question failed. -/
  commit : Option String
  deriving DecidableEq, Repr, Inhabited

namespace References

/-- The answer of a program that was asked for a reference. A program that fails has none. -/
def answer (exitCode : Nat) (output : String) : Option String :=
  if exitCode = 0 then some (trim output) else none

/-- The branch that stands in for an unknown reference. -/
def fallback : String := "main"

/-- A reference, or the one that stands in. -/
def orFallback (reference : Option String) : String :=
  match reference with
  | none => fallback
  | some name => if name.isEmpty then fallback else name

/-- The branch for addresses. -/
def branchName (r : References) : String := orFallback r.branch

/-- The commit for addresses. -/
def commitName (r : References) : String := orFallback r.commit

end References

end TrackedComments

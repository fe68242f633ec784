import TrackedComments.Proofs.Glob.Suffix
import TrackedComments.Proofs.Scan.EveryLine
import TrackedComments.Proofs.Session.Basic

/-!
# Scans that succeed

A scan succeeds if its source lists files and the list of records can be saved.

## Main results

* `Session.exists_scan`: when a scan succeeds.
-/

namespace TrackedComments

namespace Session

variable {env : Surroundings} {s : Session}

/-! ### Scans -/

/-- A scan succeeds if its source lists files and the records can be saved. -/
theorem exists_scan (env : Surroundings) {source : FileSource} {files : List String}
    (hsource : env.scans s.files source) (hready : s.workspace.store.Ready s.files)
    (hlist : source.list s.workspace.filter = .ok files) :
    ∃ report s', Step env s (.scanned source (.ok report)) s' ∧
      s'.workspace.store.Ready s'.files := by
  obtain ⟨report, t, hscan, hready'⟩ := Workspace.exists_scan hready hlist
  exact ⟨report, _, .scan hsource (.done hscan), hready'⟩

/-! ### A session to begin with -/

/-- A session that takes every line of the files with an ending for a comment, before its first
scan. -/
def sample (suffix : String) (files : FileTree) : Session where
  workspace :=
    { root := "."
      config := { pattern := "()()", include_ := "*" ++ suffix, exclude := "" }
      pattern := .everyLine
      filter := .endingIn suffix
      tree := {} }
  files

/-- The files of the store are none with the ending `.ts`. -/
theorem rejects_ts (files : FileTree) :
    ∀ name ∈ StateStore.ownNames, (sample ".ts" files).workspace.filter.accepts name = false := by
  have hrejects : ∀ name ∈ StateStore.ownNames,
      (FileFilter.endingIn ".ts").accepts name = false := by
    decide
  exact hrejects

end Session

end TrackedComments

import TrackedComments.Proofs.Record.Upsert
import TrackedComments.Proofs.Writers.Document

/-!
# Recording a link

A link is recorded by loading the saved list, linking the record in it and saving what comes of
that. If the list is a table, so is the saved one: the row of the record has been changed or added,
and the others are as they were.

Recording a link fails when a step of the save does. Steps before it stay done, but none of them
touches the state file. The first one creates the directory of the store, though, and so it may let
a state file be read that could not be reached before: the path to it may lead into a directory that
is missing, and out again.

## Main results

* `Writers.recordIssue_upserts`: what recording a link in a table does, and what it leaves behind
  when it fails.
-/

namespace TrackedComments

namespace StateStore

variable {s : StateStore} {t t' : FileTree}

/-- A state file that cannot be reached counts as no records. -/
theorem load_of_not_reads (h : ¬ s.Reads t) : s.load t = [] := by
  unfold load
  split
  · rename_i text htext
    refine absurd ?_ h
    intro content hcontent
    have hread := FileTree.readText_eq_ok_iff.mp htext
    have hheld := FileTree.contentAt?_of_read hread
    rw [location_statePath] at hheld
    obtain rfl := Option.some.inj (hheld.symm.trans hcontent)
    exact hread
  · rfl

/-- Work on other files leaves what the state file holds, and what is loaded unless it is the first
time that the state file can be reached. -/
theorem load_of_keepsContents (h : t.KeepsContents s.workPlaces t') :
    s.content t' = s.content t ∧ (s.load t' = s.load t ∨ ¬ s.Reads t ∧ s.Reads t') := by
  have hcontent : s.content t' = s.content t :=
    h.contentAt?_eq _ s.stateFile_not_mem_workPlaces
  refine ⟨hcontent, ?_⟩
  by_cases hreads : s.Reads t
  · have hreads' : s.Reads t' := by
      intro content hheld
      rw [hcontent] at hheld
      exact h.read s.location_statePath_not_mem_workPlaces (hreads content hheld)
    exact .inl (hreads.load_eq hreads' hcontent)
  · by_cases hreads' : s.Reads t'
    · exact .inr ⟨hreads, hreads'⟩
    · exact .inl ((load_of_not_reads hreads').trans (load_of_not_reads hreads).symm)

end StateStore

namespace Writers

open CommentRecord

/-! ### Failures -/

/-- The ways in which recording a link can fail, with the tree that is left. Giving back the lock is
taken to succeed. -/
inductive LinkFails (s : StateStore) (t : FileTree) (record : CommentRecord) (number : UInt64) :
    FileTree → Prop where
  /-- The tree does not let a step be done. -/
  | refused {t' : FileTree} {e : Error} : s.recordIssue t record number = (t', .error e) →
      LinkFails s t record number t'
  /-- A step has been broken off, be it in the middle of it, or has not been done at all. -/
  | brokenOff {events : List (Unit × Event)} {σ : Writers Unit} {step : SaveStep} :
      Run s ⟨t, none, fun _ => .linking record number⟩ events σ →
      σ.writer () = .failed step → step ≠ .releaseLock → LinkFails s t record number σ.files

/-- A link that fails to be recorded has worked on other files than the state file. -/
theorem LinkFails.keepsContents {s : StateStore} {t t' : FileTree} {record : CommentRecord}
    {number : UInt64} (h : LinkFails s t record number t') :
    t.KeepsContents s.workPlaces t' := by
  cases h with
  | refused h =>
    rcases StateStore.save_cases (StateStore.recordIssue_eq_error_iff.mp h) with
      ⟨_, _, _, hresult⟩ | ⟨_, _, hprep, -⟩
    · simp at hresult
    · exact (StateStore.keepsContents_of_prefix List.prefix_rfl hprep).1
  | brokenOff hrun hfailed hstep =>
    refine keepsContents_run hrun (lastSaved_eq_none_iff.mpr ?_)
    rintro ⟨⟩ records
    exact not_mem_of_failed hrun hfailed hstep records

/-! ### Links -/

/-- Recording a link in a table. If it succeeds, the list that it gives is loaded from then on. It
is a table in which the row of the record has been changed or added, and recording the link again
gives the same list. If it fails, the state file is as it was. What is loaded is what was loaded
before, unless the state file could not be reached then and can be now. -/
theorem recordIssue_upserts {s : StateStore} {t : FileTree} (record : CommentRecord)
    (number : UInt64) (h : ((s.load t).map identity).Nodup) :
    (∀ t' list, s.recordIssue t record number = (t', .ok list) →
      s.load t' = list ∧ (list.map identity).Nodup ∧
      Upserted record number (s.load t) list ∧
      ∃ t'', s.recordIssue t' record number = (t'', .ok list)) ∧
    ∀ t', LinkFails s t record number t' →
      s.content t' = s.content t ∧ (s.load t' = s.load t ∨ ¬ s.Reads t ∧ s.Reads t') := by
  constructor
  · intro t' list hrecord
    obtain ⟨hsave, hlist⟩ := StateStore.recordIssue_eq_ok_iff.mp hrecord
    have hupserted := upserted_linkRecord h record number
    rw [hlist] at hsave hupserted
    have hload := StateStore.load_of_save_ok hsave
    refine ⟨hload, hupserted.nodup h, hupserted, ?_⟩
    obtain ⟨t'', hagain, -⟩ := (StateStore.holds_of_save_ok hsave).ready.exists_save list
    refine ⟨t'', StateStore.recordIssue_eq_ok_iff.mpr ?_⟩
    rw [hload, hupserted.linkRecord_eq h]
    exact ⟨hagain, rfl⟩
  · intro t' hfails
    exact StateStore.load_of_keepsContents hfails.keepsContents

/-! ### Two rows, and a directory that is missing -/

/-- The comment of the first line of a file. -/
def rowOf (file text : String) : CommentRecord :=
  { file, line := 1, text, message := "x", metadata := .ofList [("k", file)] }

/-- The second of two rows takes the number and the text. If the link fails to be recorded, both
rows are as they were. -/
theorem recordIssue_upserts_secondRow :
    ∃ t t' list t'', (StateStore.mk ".").load t = [rowOf "a.ts" "x", rowOf "b.ts" "x"] ∧
      (((StateStore.mk ".").load t).map identity).Nodup ∧
      (StateStore.mk ".").recordIssue t (rowOf "b.ts" "y") 7 = (t', .ok list) ∧
      (StateStore.mk ".").load t' = list ∧ (list.map identity).Nodup ∧
      Upserted (rowOf "b.ts" "y") 7 [rowOf "a.ts" "x", rowOf "b.ts" "x"] list ∧
      (StateStore.mk ".").recordIssue t' (rowOf "b.ts" "y") 7 = (t'', .ok list) ∧
      ∃ t₁, LinkFails (.mk ".") t (rowOf "b.ts" "y") 7 t₁ ∧
        (StateStore.mk ".").load t₁ = [rowOf "a.ts" "x", rowOf "b.ts" "x"] := by
  obtain ⟨t, hload, hready⟩ := FileTree.exists_load_eq [rowOf "a.ts" "x", rowOf "b.ts" "x"]
  have hnodup : (((StateStore.mk ".").load t).map identity).Nodup := by
    rw [hload]
    decide
  obtain ⟨t', hrecord, -⟩ := hready.exists_recordIssue (rowOf "b.ts" "y") 7
  obtain ⟨hrecorded, hfailed⟩ := recordIssue_upserts (rowOf "b.ts" "y") 7 hnodup
  obtain ⟨hloaded, hdistinct, hupserted, t'', hagain⟩ := hrecorded t' _ hrecord
  -- the directory of the store cannot be created
  have hfails : LinkFails (.mk ".") t (rowOf "b.ts" "y") 7 t := by
    have hrun : Run (.mk ".") ⟨t, none, fun _ : Unit => .linking (rowOf "b.ts" "y") 7⟩
        [((), .loaded), ((), .failed .createDirectory)] _ :=
      .cons (.load rfl) (.cons (.fail rfl) (.nil _))
    exact .brokenOff hrun rfl (by decide)
  have hreads : (StateStore.mk ".").Reads t := StateStore.reads_of_valid (.inr hready.enters)
  refine ⟨t, t', _, t'', hload, hnodup, hrecord, hloaded, hdistinct, hload ▸ hupserted, hagain, t,
    hfails, ?_⟩
  rcases (hfailed t hfails).2 with hkept | ⟨hnot, -⟩
  · rw [hkept, hload]
  · exact absurd hreads hnot

/-- A state file in the root, where a directory stands in the place of the lock file. -/
def blocked : FileTree :=
  (FileTree.single StateStore.stateFile "[[\"a.ts\", 1, \"x\", \"x\"]]").set
    [StateStore.lockFile] .directory

/-- The path of a store may lead into a directory that is missing, and out again. A link that fails
to be recorded there has created the directory, and so the state file is loaded. -/
theorem loaded_after_failure :
    ∃ t' e, (((StateStore.mk "x/..").load blocked).map identity).Nodup ∧
      (StateStore.mk "x/..").recordIssue blocked (rowOf "b.ts" "y") 7 = (t', .error e) ∧
      (StateStore.mk "x/..").load t' ≠ (StateStore.mk "x/..").load blocked := by
  have hbefore : (StateStore.mk "x/..").load blocked = [] := by decide +kernel
  have hafter : (StateStore.mk "x/..").load (blocked.set ["x"] .directory) ≠ [] := by
    decide +kernel
  refine ⟨blocked.set ["x"] .directory, _, ?_, rfl, ?_⟩
  · rw [hbefore]
    exact List.nodup_nil
  · rw [hbefore]
    exact hafter

end Writers

end TrackedComments

import TrackedComments.Proofs.Writers.Document

/-!
# Saves that may be broken off

`StateStore.save` does all that the tree of files lets it do. The system may break off each of its
steps for reasons that a tree does not show, also in the middle of writing the text. Whatever the
reason, a save that fails leaves the state file as it was.

## Main definitions

* `StateStore.SaveAttempt`: the ways in which a save can end.

## Main results

* `StateStore.SaveAttempt.keepsContents`: what a save that fails has worked on.
* `StateStore.SaveAttempt.readText`: a save that fails leaves the state file as it was.
-/

namespace TrackedComments

/-! ### Names -/

namespace StateStore

/-- What is done at the end of a step leaves a tree well named. -/
theorem wellNamed_endStep {s : StateStore} {text : String} {t t' : FileTree} {step : SaveStep}
    (hnamed : t.WellNamed) (h : s.endStep text t step = .ok t') : t'.WellNamed := by
  cases step with
  | writeTemporary => exact Except.ok.inj h ▸ hnamed
  | createDirectory | openLock | acquireLock | openTemporary | syncTemporary | renameTemporary
  | releaseLock =>
    simp only [endStep] at h
    exact wellNamed_runStep hnamed h

end StateStore

namespace Writers

variable {ι : Type} [DecidableEq ι] {s : StateStore} {σ σ' : Writers ι} {i : ι} {event : Event}
  {events : List (ι × Event)}

/-- A step of a writer leaves a tree well named. -/
theorem wellNamed_step (hstep : Step s σ (i, event) σ') (hnamed : σ.files.WellNamed) :
    σ'.files.WellNamed := by
  cases hstep with
  | load | fail | stop => exact hnamed
  | make _ hmake =>
    exact hnamed.createDirectoriesFrom areNames_nil
      (fun part hpart => Chars.not_mem_of_mem_splitAtChar (List.mem_of_mem_take hpart)) hmake
  | write => exact hnamed.writeAt _ _ _
  | finish _ _ _ hend => exact StateStore.wellNamed_endStep hnamed hend

/-- A run of writers leaves a tree well named. -/
theorem wellNamed_run (hrun : Run s σ events σ') (hnamed : σ.files.WellNamed) :
    σ'.files.WellNamed := by
  induction hrun with
  | nil => exact hnamed
  | snoc _ hstep ih => exact wellNamed_step hstep ih

end Writers

/-! ### Saves -/

namespace StateStore

/-- The ways in which a save can end, with the tree that is left. Giving back the lock is taken to
succeed. -/
inductive SaveAttempt (s : StateStore) (t : FileTree) (records : List CommentRecord) :
    FileTree → Except Error Unit → Prop where
  /-- The system does all that the tree lets it do. -/
  | done {t' : FileTree} {result : Except Error Unit} : s.save t records = (t', result) →
      SaveAttempt s t records t' result
  /-- A step has been broken off, be it in the middle of it, or has not been done at all. -/
  | brokenOff {events : List (Unit × Writers.Event)} {σ : Writers Unit} {step : SaveStep}
      (message : String) :
      Writers.Run s ⟨t, none, fun _ => .start records⟩ events σ → σ.writer () = .failed step →
      step ≠ .releaseLock →
      SaveAttempt s t records σ.files (.error (.stateSave s.statePath message))

namespace SaveAttempt

variable {s : StateStore} {t t' : FileTree} {records : List CommentRecord}
  {result : Except Error Unit} {e : Error}

/-- A save that succeeds has not been broken off. -/
theorem save_eq (h : SaveAttempt s t records t' (.ok ())) : s.save t records = (t', .ok ()) := by
  cases h with
  | done h => exact h

/-- A save fails in one way only. -/
theorem exists_message (h : SaveAttempt s t records t' (.error e)) :
    ∃ message, e = .stateSave s.statePath message := by
  cases h with
  | done h => exact error_of_save_error h
  | brokenOff message => exact ⟨message, rfl⟩

/-- A save that fails has worked on the temporary file and the lock file. -/
theorem keepsContents (h : SaveAttempt s t records t' (.error e)) :
    t.KeepsContents s.workPlaces t' := by
  cases h with
  | done h =>
    rcases save_cases h with ⟨_, _, _, hresult⟩ | ⟨_, _, hprep, -⟩
    · simp at hresult
    · exact (StateStore.keepsContents_of_prefix List.prefix_rfl hprep).1
  | brokenOff _ hrun hfailed hstep =>
    refine Writers.keepsContents_run hrun (Writers.lastSaved_eq_none_iff.mpr ?_)
    rintro ⟨⟩ records
    exact Writers.not_mem_of_failed hrun hfailed hstep records

/-- A save that fails leaves the state file as it was. -/
theorem readText (h : SaveAttempt s t records t' (.error e)) {text : String}
    (htext : t.readText s.statePath.toList = .ok text) :
    t'.readText s.statePath.toList = .ok text := by
  rw [FileTree.readText_eq_ok_iff] at htext ⊢
  exact h.keepsContents.read s.location_statePath_not_mem_workPlaces htext

/-- A save leaves a tree well named, however it ends. -/
theorem wellNamed (h : SaveAttempt s t records t' result) (hnamed : t.WellNamed) :
    t'.WellNamed := by
  cases h with
  | done h => exact wellNamed_save hnamed h
  | brokenOff _ hrun => exact Writers.wellNamed_run hrun hnamed

end SaveAttempt

end StateStore

end TrackedComments

import TrackedComments.Proofs.Writers.Basic

/-!
# Who holds the lock owns the temporary file

A writer that holds the lock is the only one that touches the temporary file and the state file, and
all others touch no more than the lock file. So what a writer has written so far is still in the
temporary file when it goes on, whatever a writer before it has left there and whatever happens in
between.

## Main results

* `Writers.Coherent`: the invariant, which every step keeps (`coherent_step`, `coherent_run`).
* `Writers.Coherent.eq_of_holdsLock`: no two writers hold the lock.
* `Writers.keepsContents_step`: what a step touches.
-/

namespace TrackedComments

/-! ### What steps touch -/

namespace StateStore

variable {s : StateStore} {t t' : FileTree} {text : String} {step : SaveStep}

/-- The end of a step touches the places of the step alone. -/
theorem keepsContents_endStep (h : s.endStep text t step = .ok t') :
    t.KeepsContents (s.placesOf step) t' := by
  cases step with
  | writeTemporary =>
    obtain rfl := Except.ok.inj h
    exact .refl t _
  | createDirectory | openLock | acquireLock | openTemporary | syncTemporary | renameTemporary
  | releaseLock =>
    simp only [endStep] at h
    exact keepsContents_runStep h

/-- Without the lock a step touches no more than the lock file. -/
theorem placesOf_subset_of_not_holdsLock (s : StateStore) (h : step.holdsLock = false) :
    s.placesOf step ⊆ [s.place lockFile] := by
  cases step <;> simp_all [placesOf, SaveStep.holdsLock]

/-- A step that moves nothing into place touches no more than the files that a save works with. -/
theorem placesOf_subset_workPlaces (s : StateStore) (h : step ≠ .renameTemporary) :
    s.placesOf step ⊆ s.workPlaces := by
  cases step <;> simp_all [placesOf, workPlaces]

end StateStore

namespace Writers

open StateText (encode)

variable {ι : Type} {s : StateStore} {σ σ' : Writers ι} {i j : ι} {event : Event}
  {events : List (ι × Event)} {records : List CommentRecord} {step : SaveStep} {written : Nat}

/-! ### The invariant -/

/-- What a writer can rely on when a step is to be done. -/
def Progress (s : StateStore) (t : FileTree) (records : List CommentRecord) (written : Nat) :
    SaveStep → Prop
  | .createDirectory | .openLock | .acquireLock | .openTemporary => written = 0
  | .writeTemporary => written ≤ (encode records).size ∧
    t.contentAt? (s.place StateStore.temporaryFile) = some ((encode records).extract 0 written)
  | .syncTemporary | .renameTemporary =>
    t.contentAt? (s.place StateStore.temporaryFile) = some (encode records)
  | .releaseLock => t.read s.statePath.toList = .ok (encode records)

/-- The lock is held by the writer that has taken it, and every writer finds what it relies on. -/
structure Coherent (s : StateStore) (σ : Writers ι) : Prop where
  holder_iff : ∀ i, σ.holder = some i ↔ (σ.writer i).holdsLock
  progress : ∀ i records step written, σ.writer i = .saving records step written →
    Progress s σ.files records written step

/-- No two writers hold the lock. -/
theorem Coherent.eq_of_holdsLock (h : Coherent s σ) (hi : (σ.writer i).holdsLock)
    (hj : (σ.writer j).holdsLock) : i = j :=
  Option.some.inj (((h.holder_iff i).mpr hi).symm.trans ((h.holder_iff j).mpr hj))

/-- Before the first step of any writer nothing has to be relied on. -/
theorem coherent_of_start (hfree : σ.holder = none)
    (hstart : ∀ i, (∃ records, σ.writer i = .start records) ∨
      ∃ record number, σ.writer i = .linking record number) : Coherent s σ := by
  refine ⟨fun i => ?_, fun i records step written hi => ?_⟩
  · rcases hstart i with ⟨_, hi⟩ | ⟨_, _, hi⟩ <;>
      simp [hfree, hi, Writer.start, Writer.holdsLock, SaveStep.holdsLock]
  · rcases hstart i with ⟨_, hi'⟩ | ⟨_, _, hi'⟩
    · obtain ⟨-, rfl, rfl⟩ := Writer.saving.inj (hi.symm.trans hi')
      exact rfl
    · exact absurd (hi.symm.trans hi') nofun

/-! ### The lock -/

/-- A writer that has done a step holds the lock just when the lock is passed to it. -/
theorem holdsLock_after (h : σ.holder = some i ↔ step.holdsLock) :
    step.passLock i σ.holder = some i ↔ (Writer.after records step written).holdsLock := by
  cases step <;> simp_all [SaveStep.passLock, SaveStep.holdsLock, Writer.after, SaveStep.next?,
    StateStore.saveSteps, Writer.holdsLock]

/-- A step of one writer does not pass the lock to another one, or from it. -/
theorem passLock_of_ne (h : σ.holder = some i ↔ step.holdsLock)
    (hfree : step = .acquireLock → σ.holder = none) (hj : j ≠ i) :
    step.passLock i σ.holder = some j ↔ σ.holder = some j := by
  have hne : i ≠ j := hj.symm
  cases step <;> simp_all [SaveStep.passLock, SaveStep.holdsLock]

variable [DecidableEq ι]

/-- A change of the holder that goes with a change of one writer. -/
theorem holder_iff_update (h : ∀ j, σ.holder = some j ↔ (σ.writer j).holdsLock)
    {holder : Option ι} {w : Writer} (hi : holder = some i ↔ w.holdsLock)
    (hother : ∀ j, j ≠ i → (holder = some j ↔ σ.holder = some j)) (j : ι) :
    holder = some j ↔ (Function.update σ.writer i w j).holdsLock := by
  by_cases hj : j = i
  · subst hj
    rw [Function.update_self]
    exact hi
  · rw [Function.update_of_ne hj, hother j hj]
    exact h j

/-- After a step the lock is held by the writer that says so. -/
theorem Coherent.holder_iff_step (h : Coherent s σ) (hstep : Step s σ (i, event) σ') :
    ∀ j, σ'.holder = some j ↔ (σ'.writer j).holdsLock := by
  have hholds := h.holder_iff i
  have hleave (w : Writer) (hw : w.holdsLock = false) :
      ∀ j, (σ.leave i w).holder = some j ↔ ((σ.leave i w).writer j).holdsLock := by
    refine holder_iff_update h.holder_iff ?_ fun j hj => ?_
    · rw [holder_leave, hw]
      split <;> simp_all
    · rw [holder_leave]
      split
      · rename_i hholder
        simp [hholder, hj.symm]
      · exact Iff.rfl
  cases hstep with
  | load hi =>
    rw [hi] at hholds
    exact holder_iff_update h.holder_iff hholds fun j _ => Iff.rfl
  | make => exact h.holder_iff
  | write hi =>
    rw [hi] at hholds
    exact holder_iff_update h.holder_iff hholds fun j _ => Iff.rfl
  | finish hi hfree =>
    rw [hi] at hholds
    exact holder_iff_update h.holder_iff (holdsLock_after hholds)
      fun j hj => passLock_of_ne hholds hfree hj
  | fail => exact hleave _ rfl
  | stop => exact hleave _ rfl

/-! ### What writers touch -/

/-- The places that a writer touches when an event happens. -/
def Event.places (s : StateStore) : Event → List Location
  | .wrote _ => [s.place StateStore.temporaryFile]
  | .finished _ step => s.placesOf step
  | .loaded | .made _ | .failed _ | .stopped => []

/-- A step touches the places of its event alone. -/
theorem keepsContents_step (h : Step s σ (i, event) σ') :
    σ.files.KeepsContents (event.places s) σ'.files := by
  cases h with
  | load | fail | stop => exact .refl _ _
  | make hi hmake => exact FileTree.keepsContents_createDirectoriesFrom hmake
  | write => exact (FileTree.changesOnly_writeAt _ _ _ _).keepsContents
  | finish hi hfree hwritten hend => exact StateStore.keepsContents_endStep hend

/-- A writer that does not hold the lock touches the lock file alone. -/
theorem places_subset_of_not_holdsLock (h : Step s σ (i, event) σ')
    (hi : (σ.writer i).holdsLock = false) : event.places s ⊆ [s.place StateStore.lockFile] := by
  cases h with
  | load | make | fail | stop => exact List.nil_subset _
  | write hsaving =>
    rw [hsaving] at hi
    simp [Writer.holdsLock, SaveStep.holdsLock] at hi
  | finish hsaving =>
    rw [hsaving] at hi
    exact s.placesOf_subset_of_not_holdsLock hi

/-! ### Progress -/

/-- What a writer relies on stays if no more than the lock file is touched. -/
theorem Progress.of_keepsContents {t t' : FileTree} (h : Progress s t records written step)
    (hkeeps : t.KeepsContents [s.place StateStore.lockFile] t') :
    Progress s t' records written step := by
  have htemporary : t'.contentAt? (s.place StateStore.temporaryFile) =
      t.contentAt? (s.place StateStore.temporaryFile) := by
    refine hkeeps.contentAt?_eq _ ?_
    rw [List.mem_singleton, StateStore.place_inj]
    decide
  cases step with
  | createDirectory | openLock | acquireLock | openTemporary => exact h
  | writeTemporary => exact ⟨h.1, htemporary.trans h.2⟩
  | syncTemporary | renameTemporary => exact htemporary.trans h
  | releaseLock =>
    refine hkeeps.read ?_ h
    rw [StateStore.location_statePath, List.mem_singleton, StateStore.place_inj]
    decide

/-- Without the lock a writer relies on nothing in the files. -/
theorem Progress.of_not_holdsLock {t : FileTree} (h : Progress s t records written step)
    (hstep : step.holdsLock = false) (t' : FileTree) : Progress s t' records written step := by
  cases step with
  | createDirectory | openLock | acquireLock => exact h
  | openTemporary | writeTemporary | syncTemporary | renameTemporary | releaseLock =>
    simp [SaveStep.holdsLock] at hstep

/-- What has been moved into place is read. -/
theorem read_of_renameTemporary {t t' : FileTree}
    (h : Progress s t records written .renameTemporary)
    (hend : s.endStep (StateText.write records) t .renameTemporary = .ok t') :
    t'.read s.statePath.toList = .ok (encode records) := by
  obtain ⟨content, hread, -⟩ := FileTree.rename_eq_ok hend
  have hcontent := FileTree.contentAt?_of_read hread
  rw [StateStore.location_temporaryPath] at hcontent
  obtain rfl := Option.some.inj (hcontent.symm.trans h)
  exact FileTree.read_of_rename hread hend

/-- A writer that has done a step can rely on what the next one needs. -/
theorem Progress.next {t t' : FileTree} (h : Progress s t records written step)
    (hwritten : step = .writeTemporary → written = (encode records).size)
    (hend : s.endStep (StateText.write records) t step = .ok t') {next : SaveStep}
    (hnext : step.next? = some next) : Progress s t' records written next := by
  cases step with
  | createDirectory | openLock | acquireLock =>
    obtain rfl := Option.some.inj hnext
    exact h
  | openTemporary =>
    obtain rfl := Option.some.inj hnext
    obtain rfl : written = 0 := h
    have hempty := FileTree.contentAt?_of_read (FileTree.read_of_write hend)
    rw [StateStore.location_temporaryPath] at hempty
    refine ⟨Nat.zero_le _, ?_⟩
    rw [hempty, ByteArray.extract_same]
    rfl
  | writeTemporary =>
    obtain rfl := Option.some.inj hnext
    obtain rfl := Except.ok.inj hend
    have hall := h.2
    rwa [hwritten rfl, ByteArray.extract_zero_size] at hall
  | syncTemporary =>
    obtain rfl := Option.some.inj hnext
    obtain rfl := Except.ok.inj hend
    exact h
  | renameTemporary =>
    obtain rfl := Option.some.inj hnext
    exact read_of_renameTemporary h hend
  | releaseLock => exact absurd hnext nofun

/-- What the writer that takes the step can rely on afterwards. -/
theorem Coherent.progress_self (h : Coherent s σ) (hstep : Step s σ (i, event) σ')
    (hi' : σ'.writer i = .saving records step written) :
    Progress s σ'.files records written step := by
  cases hstep with
  | load hi =>
    rw [writer_setWriter] at hi'
    obtain ⟨-, rfl, rfl⟩ := Writer.saving.inj hi'
    exact rfl
  | make hi hmake =>
    have hprogress := h.progress i _ _ _ hi
    obtain ⟨rfl, rfl, rfl⟩ := Writer.saving.inj (hi.symm.trans hi')
    exact hprogress
  | write hi hcount =>
    have hprogress := h.progress i _ _ _ hi
    dsimp only at hi'
    rw [writer_setWriter] at hi'
    obtain ⟨rfl, rfl, rfl⟩ := Writer.saving.inj hi'
    exact ⟨hcount, FileTree.contentAt?_writeAt hprogress.2 hcount⟩
  | finish hi hfree hwritten hend =>
    have hprogress := h.progress i _ _ _ hi
    dsimp only at hi'
    rw [Function.update_self, Writer.after] at hi'
    split at hi'
    · rename_i next hnext
      obtain ⟨rfl, rfl, rfl⟩ := Writer.saving.inj hi'
      exact hprogress.next hwritten hend hnext
    · exact absurd hi' nofun
  | fail | stop =>
    rw [writer_leave] at hi'
    exact absurd hi' nofun

/-- What the other writers can rely on afterwards. -/
theorem Coherent.progress_of_ne (h : Coherent s σ) (hstep : Step s σ (i, event) σ') (hj : j ≠ i)
    (hj' : σ'.writer j = .saving records step written) :
    Progress s σ'.files records written step := by
  rw [hstep.writer_of_ne hj] at hj'
  have hprogress := h.progress j _ _ _ hj'
  cases hlock : step.holdsLock with
  | false => exact hprogress.of_not_holdsLock hlock _
  | true =>
    -- the lock is taken, so the writer that takes the step touches the lock file alone
    have hholds : (σ.writer j).holdsLock := by rw [hj']; exact hlock
    have hi : (σ.writer i).holdsLock = false :=
      Bool.eq_false_iff.mpr fun hi => hj (h.eq_of_holdsLock hholds hi)
    exact hprogress.of_keepsContents
      ((keepsContents_step hstep).mono (places_subset_of_not_holdsLock hstep hi))

/-- A step leaves the writers coherent. -/
theorem coherent_step (h : Coherent s σ) (hstep : Step s σ (i, event) σ') : Coherent s σ' := by
  refine ⟨h.holder_iff_step hstep, fun j records step written hj' => ?_⟩
  by_cases hj : j = i
  · subst hj
    exact h.progress_self hstep hj'
  · exact h.progress_of_ne hstep hj hj'

/-- A run leaves the writers coherent. -/
theorem coherent_run (h : Coherent s σ) (hrun : Run s σ events σ') : Coherent s σ' := by
  induction hrun with
  | nil => exact h
  | snoc _ hstep ih => exact coherent_step ih hstep

end Writers

end TrackedComments

import TrackedComments.Proofs.Writers.Basic

/-!
# A writer on its own

A writer that finds the lock free and is not disturbed does what a call on its own does: it takes
the steps of `StateStore.save` one after another and leaves the same files behind. So a call is one
of the ways in which the steps of a writer may come.

## Main results

* `Writers.run_of_save`: a save that succeeds as the run of a single writer.
* `Writers.run_of_recordIssue`: the same for a link that is recorded.
* `Writers.exists_run_of_ready`: where the files let it, a writer on its own saves its list.
* `Writers.exists_run_cut_off`: a writer may leave part of its text in the temporary file.
-/

namespace TrackedComments

namespace StateStore

variable {s : StateStore} {t t' : FileTree} {text : String}

theorem runSteps_cons_eq_none {step : SaveStep} {steps : List SaveStep} :
    s.runSteps text t (step :: steps) = (t', none) ↔
      ∃ t₁, s.runStep text t step = .ok t₁ ∧ s.runSteps text t₁ steps = (t', none) := by
  rw [runSteps]
  split <;> simp_all

/-- A save that succeeds has run all its steps. -/
theorem runSteps_of_save_ok {records : List CommentRecord}
    (h : s.save t records = (t', .ok ())) :
    s.runSteps (StateText.write records) t saveSteps = (t', none) := by
  unfold save at h
  split at h
  · rename_i t₁ hsteps
    rw [hsteps, (Prod.mk.inj h).1]
  · simp at h

/-- The text goes into the empty temporary file as a whole. -/
theorem writeAt_of_openTemporary (hopen : s.runStep text t .openTemporary = .ok t')
    (content : ByteArray) :
    t'.writeAt (s.place temporaryFile) 0 (content.extract 0 (0 + content.size)) =
      t'.set (s.place temporaryFile) (.file content) := by
  have hempty := FileTree.contentAt?_of_read (FileTree.read_of_write hopen)
  rw [location_temporaryPath] at hempty
  exact FileTree.writeAt_of_empty hempty content

end StateStore

namespace Writers

open StateText (encode)

variable {ι : Type} [DecidableEq ι] {s : StateStore} {σ : Writers ι} {i : ι} {t t' : FileTree}
  {records : List CommentRecord}

/-! ### Steps -/

/-- A writer on its own finishes a step that the files let it do. -/
theorem step_finish {holder : Option ι} {w : ι → Writer} {step : SaveStep} {written : Nat}
    (hfree : step = .acquireLock → holder = none)
    (hwritten : step = .writeTemporary → written = (encode records).size)
    (hend : s.endStep (StateText.write records) t step = .ok t') :
    Step s ⟨t, holder, Function.update w i (.saving records step written)⟩
      (i, .finished records step)
      ⟨t', step.passLock i holder, Function.update w i (.after records step written)⟩ := by
  rw [← Function.update_idem (.saving records step written) (.after records step written) w]
  exact .finish (Function.update_self ..) hfree hwritten hend

/-- A writer on its own writes the next piece of its text. -/
theorem step_write {holder : Option ι} {w : ι → Writer} {written count : Nat}
    (hcount : written + count ≤ (encode records).size) :
    Step s ⟨t, holder, Function.update w i (.saving records .writeTemporary written)⟩
      (i, .wrote count)
      ⟨t.writeAt (s.place StateStore.temporaryFile) written
        ((encode records).extract written (written + count)), holder,
        Function.update w i (.saving records .writeTemporary (written + count))⟩ := by
  rw [← Function.update_idem (.saving records .writeTemporary written)
    (.saving records .writeTemporary (written + count)) w]
  exact .write (Function.update_self ..) hcount

/-- What comes before the text is written. -/
theorem run_preparation {t₁ t₂ t₃ : FileTree} {rest : List (ι × Event)} {σ' : Writers ι}
    (w : ι → Writer) (hdirectory : s.runStep (StateText.write records) t .createDirectory = .ok t₁)
    (hlock : s.runStep (StateText.write records) t₁ .openLock = .ok t₂)
    (htemporary : s.runStep (StateText.write records) t₂ .openTemporary = .ok t₃)
    (hrest : Run s ⟨t₃, some i, Function.update w i (.saving records .writeTemporary 0)⟩ rest σ') :
    Run s ⟨t, none, Function.update w i (.start records)⟩
      ((i, .finished records .createDirectory) :: (i, .finished records .openLock) ::
        (i, .finished records .acquireLock) :: (i, .finished records .openTemporary) :: rest) σ' :=
  .cons (step_finish nofun nofun hdirectory) <| .cons (step_finish nofun nofun hlock) <|
    .cons (step_finish (fun _ => rfl) nofun rfl) <|
    .cons (step_finish nofun nofun htemporary) hrest

/-! ### Calls -/

/-- The events of a save on its own. -/
def saveEvents (i : ι) (records : List CommentRecord) : List (ι × Event) :=
  [.finished records .createDirectory, .finished records .openLock, .finished records .acquireLock,
    .finished records .openTemporary, .wrote (encode records).size,
    .finished records .writeTemporary, .finished records .syncTemporary,
    .finished records .renameTemporary, .finished records .releaseLock].map (i, ·)

/-- A save that succeeds as the run of a writer that is about to start. -/
theorem run_save (w : ι → Writer) (h : s.save t records = (t', .ok ())) :
    Run s ⟨t, none, Function.update w i (.start records)⟩ (saveEvents i records)
      ⟨t', none, Function.update w i (.saved records)⟩ := by
  have hsteps := StateStore.runSteps_of_save_ok h
  simp only [StateStore.saveSteps, StateStore.runSteps_cons_eq_none] at hsteps
  obtain ⟨t₁, hdirectory, t₂, hlock, t₃, hacquire, t₄, htemporary, t₅, hwrite, t₆, hsync, t₇,
    hrename, t₈, hrelease, hdone⟩ := hsteps
  obtain rfl := Except.ok.inj hacquire
  obtain rfl := Except.ok.inj hsync
  obtain rfl := Except.ok.inj hrelease
  obtain rfl : t₇ = t' := (Prod.mk.inj hdone).1
  have hwritten : t₄.writeAt (s.place StateStore.temporaryFile) 0
      ((encode records).extract 0 (0 + (encode records).size)) = t₅ := by
    obtain ⟨-, -, rfl⟩ := FileTree.write_eq_ok hwrite
    rw [StateStore.writeAt_of_openTemporary htemporary, StateStore.location_temporaryPath]
    rfl
  have hpiece : Step s ⟨t₄, some i, Function.update w i (.saving records .writeTemporary 0)⟩
      (i, .wrote (encode records).size)
      ⟨_, some i, Function.update w i (.saving records .writeTemporary _)⟩ :=
    step_write (Nat.le_of_eq (Nat.zero_add _))
  rw [hwritten, Nat.zero_add] at hpiece
  refine run_preparation w hdirectory hlock htemporary (.cons hpiece ?_)
  exact .cons (step_finish nofun (fun _ => rfl) rfl) <| .cons (step_finish nofun nofun rfl) <|
    .cons (step_finish nofun nofun hrename) <| .cons (step_finish nofun nofun rfl) (.nil _)

/-- A save that succeeds as the run of a single writer. -/
theorem run_of_save (hi : σ.writer i = .start records) (hfree : σ.holder = none)
    (h : s.save σ.files records = (t', .ok ())) :
    Run s σ (saveEvents i records) ⟨t', none, Function.update σ.writer i (.saved records)⟩ := by
  obtain ⟨t, holder, w⟩ := σ
  obtain rfl : holder = none := hfree
  have hrun := run_save (i := i) w h
  rwa [← (hi : w i = .start records), Function.update_eq_self] at hrun

/-- The record of a link that succeeds as the run of a single writer. -/
theorem run_of_recordIssue {record : CommentRecord} {number : UInt64}
    (hi : σ.writer i = .linking record number) (hfree : σ.holder = none)
    (h : s.recordIssue σ.files record number = (t', .ok records)) :
    Run s σ ((i, .loaded) :: saveEvents i records)
      ⟨t', none, Function.update σ.writer i (.saved records)⟩ := by
  obtain ⟨t, holder, w⟩ := σ
  obtain rfl : holder = none := hfree
  obtain ⟨hsave, rfl⟩ := StateStore.recordIssue_eq_ok_iff.mp h
  exact .cons (.load hi) (run_save w hsave)

/-! ### Calls that get through -/

/-- What a writer on its own leaves behind: the lock is free, the others are where they were, and
the files let the next one save. -/
structure LeftBy (s : StateStore) (σ : Writers ι) (i : ι) (w : Writer) (σ' : Writers ι) : Prop where
  free : σ'.holder = none
  writer : σ'.writer i = w
  others : ∀ j, j ≠ i → σ'.writer j = σ.writer j
  ready : s.Ready σ'.files

/-- A writer leaves behind what it is, when the lock is free and the store ready. -/
theorem leftBy_update (σ : Writers ι) (i : ι) (w : Writer) (hready : s.Ready t) :
    LeftBy s σ i w ⟨t, none, Function.update σ.writer i w⟩ :=
  ⟨rfl, Function.update_self .., fun _ hj => Function.update_of_ne hj .., hready⟩

/-- Where the files let it, a writer on its own saves its list. -/
theorem exists_run_of_ready (h : s.Ready σ.files) (hi : σ.writer i = .start records)
    (hfree : σ.holder = none) :
    ∃ σ', Run s σ (saveEvents i records) σ' ∧ LeftBy s σ i (.saved records) σ' ∧
      s.load σ'.files = records := by
  obtain ⟨t', hsave, hready⟩ := h.exists_save records
  exact ⟨_, run_of_save hi hfree hsave, leftBy_update σ i _ hready,
    StateStore.load_of_save_ok hsave⟩

/-- Where the files let it, a writer on its own records its link. -/
theorem exists_run_of_ready_of_linking {record : CommentRecord} {number : UInt64}
    (h : s.Ready σ.files) (hi : σ.writer i = .linking record number) (hfree : σ.holder = none) :
    ∃ σ' records, Run s σ ((i, .loaded) :: saveEvents i records) σ' ∧
      LeftBy s σ i (.saved records) σ' := by
  obtain ⟨t', hrecord, hready⟩ := h.exists_recordIssue record number
  exact ⟨_, _, run_of_recordIssue hi hfree hrecord, leftBy_update σ i _ hready⟩

/-- The events of a save that fails when some of its text has been written. -/
def cutOffEvents (i : ι) (records : List CommentRecord) (count : Nat) : List (ι × Event) :=
  [.finished records .createDirectory, .finished records .openLock, .finished records .acquireLock,
    .finished records .openTemporary, .wrote count, .failed .writeTemporary].map (i, ·)

/-- Where the files let it, a writer may leave part of its text in the temporary file. -/
theorem exists_run_cut_off (h : s.Ready σ.files) (hi : σ.writer i = .start records)
    (hfree : σ.holder = none) {count : Nat} (hcount : count ≤ (encode records).size) :
    ∃ σ', Run s σ (cutOffEvents i records count) σ' ∧
      LeftBy s σ i (.failed .writeTemporary) σ' := by
  obtain ⟨t, holder, w⟩ := σ
  obtain rfl : holder = none := hfree
  obtain ⟨t₁, hdirectory, h₁⟩ := h.exists_runStep (StateText.write records)
    (show SaveStep.createDirectory ≠ .renameTemporary by decide)
  obtain ⟨t₂, hlock, h₂⟩ := h₁.exists_runStep (StateText.write records)
    (show SaveStep.openLock ≠ .renameTemporary by decide)
  obtain ⟨t₃, htemporary, h₃⟩ := h₂.exists_runStep (StateText.write records)
    (show SaveStep.openTemporary ≠ .renameTemporary by decide)
  have hfail (t : FileTree) (written : Nat) :
      Step s ⟨t, some i, Function.update w i (.saving records .writeTemporary written)⟩
        (i, .failed .writeTemporary)
        ⟨t, none, Function.update w i (.failed .writeTemporary)⟩ := by
    have hstep : Step s ⟨t, some i, Function.update w i (.saving records .writeTemporary written)⟩
      (i, .failed .writeTemporary) _ := .fail (Function.update_self ..)
    rwa [leave, setWriter, Function.update_idem, if_pos rfl] at hstep
  have hrun : Run s ⟨t, none, Function.update w i (.start records)⟩ (cutOffEvents i records count)
      ⟨t₃.writeAt (s.place StateStore.temporaryFile) 0 ((encode records).extract 0 (0 + count)),
        none, Function.update w i (.failed .writeTemporary)⟩ := by
    refine run_preparation w hdirectory hlock htemporary ?_
    exact .cons (step_write (by omega)) <| .cons (hfail _ _) (.nil _)
  rw [← (hi : w i = .start records), Function.update_eq_self] at hrun
  exact ⟨_, hrun, leftBy_update ⟨t, none, w⟩ i _
    (h₃.of_changesOnly (FileTree.changesOnly_writeAt _ _ _ _))⟩

end Writers

end TrackedComments

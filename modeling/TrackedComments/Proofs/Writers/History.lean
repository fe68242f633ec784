import TrackedComments.Proofs.Writers.Basic

/-!
# What a writer must have done

How far a writer has come says what it has done before, and the other way round.

## Main results

* `Writers.not_mem_of_linking`: a writer that has yet to load has done nothing.
* `Writers.records_run`: where the list comes from that a writer saves.
* `Writers.renamed_run`: who is past the move has moved its list into place.
* `Writers.mayHaveRenamed_run`: who has moved a list into place is past the move.
-/

namespace TrackedComments

namespace Writer

/-- The list that a writer saves or has saved. -/
def records? : Writer → Option (List CommentRecord)
  | saving records _ _ | saved records => some records
  | linking _ _ | failed _ | stopped => none

/-- The list that a writer must have moved into place. -/
def renamed? : Writer → Option (List CommentRecord)
  | saving records .releaseLock _ | saved records => some records
  | _ => none

/-- Whether a writer may have moved its list into place. -/
def mayHaveRenamed : Writer → Bool
  | saving _ .releaseLock _ | saved _ | failed .releaseLock | stopped => true
  | _ => false

/-- A writer that has done a step works on the same list as before. -/
theorem records?_after (records : List CommentRecord) (step : SaveStep) (written : Nat) :
    (after records step written).records? = some records := by
  cases step <;> rfl

end Writer

namespace Writers

variable {ι : Type} [DecidableEq ι] {s : StateStore} {σ₀ σ σ' : Writers ι} {i j : ι}
  {event : Event} {events : List (ι × Event)} {records : List CommentRecord}
  {record : CommentRecord} {number : UInt64}

/-! ### Loading -/

/-- A writer that has yet to load after a step had yet to load before it, and did not take it. -/
theorem linking_step (hstep : Step s σ (i, event) σ') (hj : σ'.writer j = .linking record number) :
    j ≠ i ∧ σ.writer j = .linking record number := by
  have hne : j ≠ i := by
    rintro rfl
    cases hstep with
    | make hi => exact absurd (hi.symm.trans hj) nofun
    | load | write | fail | stop => simp [Writer.start] at hj
    | @finish _ records step written =>
      dsimp only at hj
      rw [Function.update_self] at hj
      have hrecords := Writer.records?_after records step written
      simp [hj, Writer.records?] at hrecords
  exact ⟨hne, hstep.writer_of_ne hne ▸ hj⟩

/-- A writer that has yet to load has done nothing. -/
theorem not_mem_of_linking (hrun : Run s σ₀ events σ) (hi : σ.writer i = .linking record number) :
    σ₀.writer i = .linking record number ∧ ∀ event, (i, event) ∉ events := by
  induction hrun with
  | nil => exact ⟨hi, by simp⟩
  | @snoc σ₁ σ₂ events event hrun hstep ih =>
    obtain ⟨j, event⟩ := event
    obtain ⟨hne, hi⟩ := linking_step hstep hi
    obtain ⟨hstart, hnone⟩ := ih hi
    refine ⟨hstart, fun e hmem => ?_⟩
    rcases List.mem_append.mp hmem with hmem | hmem
    · exact hnone e hmem
    · exact hne (Prod.mk.inj (List.mem_singleton.mp hmem)).1

/-! ### The list to save -/

/-- A writer gets its list when it loads, and keeps it from then on. -/
theorem records_step (hstep : Step s σ (i, event) σ')
    (hj : (σ'.writer j).records? = some records) :
    (σ.writer j).records? = some records ∨
      ∃ record number, j = i ∧ event = .loaded ∧ σ.writer j = .linking record number ∧
        records = StateStore.linkRecord (s.load σ.files) record number := by
  by_cases hne : j = i
  · subst hne
    cases hstep with
    | load hi =>
      rw [writer_setWriter] at hj
      exact .inr ⟨_, _, rfl, rfl, hi, (Option.some.inj hj).symm⟩
    | make => exact .inl hj
    | write hi =>
      dsimp only at hj
      rw [writer_setWriter] at hj
      rw [hi]
      exact .inl hj
    | finish hi =>
      dsimp only at hj
      rw [Function.update_self, Writer.records?_after] at hj
      rw [hi]
      exact .inl hj
    | fail | stop => simp [Writer.records?] at hj
  · rw [hstep.writer_of_ne hne] at hj
    exact .inl hj

/-- A writer saves the list that it was to save from the start, or the list in which it has linked a
record after it had been loaded. -/
theorem records_run (hrun : Run s σ₀ events σ) (hi : (σ.writer i).records? = some records) :
    (σ₀.writer i).records? = some records ∨
      ∃ before after σ₁ record number, events = before ++ (i, .loaded) :: after ∧
        Run s σ₀ before σ₁ ∧ σ₁.writer i = .linking record number ∧
        records = StateStore.linkRecord (s.load σ₁.files) record number := by
  induction hrun with
  | nil => exact .inl hi
  | @snoc σ₁ σ₂ events event hrun hstep ih =>
    obtain ⟨j, event⟩ := event
    rcases records_step hstep hi with hi | ⟨record, number, rfl, rfl, hlinking, hrecords⟩
    · rcases ih hi with hstart | ⟨before, after, σ', record, number, rfl, hbefore⟩
      · exact .inl hstart
      · exact .inr ⟨before, after ++ [(j, event)], σ', record, number, by simp, hbefore⟩
    · exact .inr ⟨events, [], σ₁, record, number, rfl, hrun, hlinking, hrecords⟩

/-- The list that a writer works on when it does a step. -/
theorem records_of_finished {step : SaveStep} (hstep : Step s σ (i, .finished records step) σ') :
    (σ.writer i).records? = some records := by
  cases hstep with
  | finish hi => rw [hi]; rfl

/-! ### Moving a list into place -/

/-- A writer that must have moved a list into place must have done so before a step or in it. -/
theorem renamed_step (hstep : Step s σ (i, event) σ')
    (hj : (σ'.writer j).renamed? = some records) :
    (σ.writer j).renamed? = some records ∨
      j = i ∧ event = .finished records .renameTemporary := by
  by_cases hne : j = i
  · subst hne
    cases hstep with
    | make => exact .inl hj
    | load | write | fail | stop => simp [Writer.renamed?, Writer.start] at hj
    | @finish _ _ step _ _ hi =>
      dsimp only at hj
      rw [Function.update_self] at hj
      cases step with
      | releaseLock =>
        rw [hi]
        exact .inl hj
      | renameTemporary =>
        obtain rfl := Option.some.inj hj
        exact .inr ⟨rfl, rfl⟩
      | createDirectory | openLock | acquireLock | openTemporary | writeTemporary
      | syncTemporary => exact absurd hj nofun
  · rw [hstep.writer_of_ne hne] at hj
    exact .inl hj

/-- Who is past the move has moved its list into place. -/
theorem renamed_run (hrun : Run s σ₀ events σ) (hi : (σ.writer i).renamed? = some records) :
    (σ₀.writer i).renamed? = some records ∨ (i, .finished records .renameTemporary) ∈ events := by
  induction hrun with
  | nil => exact .inl hi
  | @snoc σ₁ σ₂ events event hrun hstep ih =>
    obtain ⟨j, event⟩ := event
    rcases renamed_step hstep hi with hi | ⟨rfl, rfl⟩
    · exact (ih hi).imp_right (List.mem_append_left _)
    · exact .inr (by simp)

/-- Who may have moved a list into place before a step or in it may have done so after it. -/
theorem mayHaveRenamed_step (hstep : Step s σ (i, event) σ')
    (hj : (σ.writer j).mayHaveRenamed ∨
      j = i ∧ ∃ records, event = .finished records .renameTemporary) :
    (σ'.writer j).mayHaveRenamed := by
  by_cases hne : j = i
  · subst hne
    cases hstep with
    | load hi | make hi | write hi => simp [hi, Writer.mayHaveRenamed] at hj
    | @finish _ _ step _ _ hi =>
      cases step <;> simp_all [Writer.mayHaveRenamed, Writer.after, SaveStep.next?,
        StateStore.saveSteps]
    | @fail _ _ step _ hi =>
      cases step <;> simp_all [Writer.mayHaveRenamed]
    | stop => simp [Writer.mayHaveRenamed]
  · rw [hstep.writer_of_ne hne]
    exact hj.resolve_right fun h => hne h.1

/-- Who has moved a list into place is past the move. -/
theorem mayHaveRenamed_run (hrun : Run s σ₀ events σ)
    (hmem : (i, .finished records .renameTemporary) ∈ events) : (σ.writer i).mayHaveRenamed := by
  induction hrun with
  | nil => simp at hmem
  | @snoc σ₁ σ₂ events event hrun hstep ih =>
    obtain ⟨j, event⟩ := event
    rcases List.mem_append.mp hmem with hmem | hmem
    · exact mayHaveRenamed_step hstep (.inl (ih hmem))
    · obtain ⟨rfl, rfl⟩ := Prod.mk.inj (List.mem_singleton.mp hmem)
      exact mayHaveRenamed_step hstep (.inr ⟨rfl, _, rfl⟩)

end Writers

end TrackedComments

import TrackedComments.Proofs.FileTree.Texts
import TrackedComments.Proofs.Writers.Alone
import TrackedComments.Proofs.Writers.Exclusion
import TrackedComments.Proofs.Writers.History

/-!
# Readers find whole documents

The state file changes in one way only: a writer moves the temporary file over it, and by then the
temporary file holds the whole text of the list of that writer. So at any time the state file holds
what it held at first, or the text of the list that has been moved into place last.

## Main results

* `Writers.content_run`: what the state file holds after a run.
* `Writers.complete_document`: the state file holds a whole document at all times, a save that fails
  does not touch it, and a list that has been saved is loaded until another one is saved.
-/

namespace TrackedComments.Writers

open StateText (encode)

/-! ### Lists that are moved into place -/

/-- The list that is moved into place in an event. -/
def Event.saved? : Event → Option (List CommentRecord)
  | .finished records .renameTemporary => some records
  | _ => none

/-- A list is moved into place by the step that renames the temporary file. -/
theorem Event.saved?_eq_some_iff {event : Event} {records : List CommentRecord} :
    event.saved? = some records ↔ event = .finished records .renameTemporary := by
  constructor
  · intro h
    unfold saved? at h
    split at h
    · rw [Option.some.inj h]
    · simp at h
  · rintro rfl
    rfl

variable {ι : Type} {s : StateStore} {σ₀ σ σ' : Writers ι} {i j : ι} {event : Event}
  {events : List (ι × Event)} {records : List CommentRecord}

/-- The list that has been moved into place last. -/
def lastSaved (events : List (ι × Event)) : Option (List CommentRecord) :=
  (events.filterMap fun e => e.2.saved?).getLast?

@[simp] theorem lastSaved_nil : lastSaved ([] : List (ι × Event)) = none := rfl

/-- Of two sequences of events the second decides, unless it moves nothing into place. -/
theorem lastSaved_append (events more : List (ι × Event)) :
    lastSaved (events ++ more) = (lastSaved more).or (lastSaved events) := by
  rw [lastSaved, List.filterMap_append, List.getLast?_append]
  rfl

theorem lastSaved_singleton (event : ι × Event) : lastSaved [event] = event.2.saved? := by
  cases h : event.2.saved? <;> simp [lastSaved, h]

/-- The list that has been moved into place last was moved by some writer. -/
theorem exists_of_lastSaved (h : lastSaved events = some records) :
    ∃ i, (i, .finished records .renameTemporary) ∈ events := by
  obtain ⟨e, he, hsaved⟩ := List.mem_filterMap.mp (List.mem_of_getLast? h)
  exact ⟨e.1, Event.saved?_eq_some_iff.mp hsaved ▸ he⟩

/-- No list has been moved into place just when no writer has renamed its temporary file. -/
theorem lastSaved_eq_none_iff :
    lastSaved events = none ↔ ∀ i records, (i, .finished records .renameTemporary) ∉ events := by
  rw [lastSaved, List.getLast?_eq_none_iff, List.filterMap_eq_nil_iff]
  constructor
  · intro h i records hmem
    exact absurd (h _ hmem) (by simp [Event.saved?])
  · intro h e he
    rw [Option.eq_none_iff_forall_ne_some]
    intro records hsaved
    exact h e.1 records (Event.saved?_eq_some_iff.mp hsaved ▸ he)

variable [DecidableEq ι]

/-- A writer that moves no list into place has no part in which one has been moved last. -/
theorem lastSaved_filter_ne (h : ∀ records, (i, .finished records .renameTemporary) ∉ events) :
    lastSaved (events.filter (·.1 ≠ i)) = lastSaved events := by
  rw [lastSaved, lastSaved, List.filterMap_filter]
  congr 1
  refine List.filterMap_congr fun e he => ?_
  split
  · rfl
  · rename_i hi
    obtain ⟨j, event⟩ := e
    obtain rfl : j = i := by simpa using hi
    rw [eq_comm, Option.eq_none_iff_forall_ne_some]
    intro records hsaved
    exact h records (Event.saved?_eq_some_iff.mp hsaved ▸ he)

/-! ### The state file -/

/-- An event that moves no list into place touches no more than the files that a save works with. -/
theorem places_subset_workPlaces (h : event.saved? = none) : event.places s ⊆ s.workPlaces := by
  cases event with
  | finished records step =>
    refine s.placesOf_subset_workPlaces ?_
    rintro rfl
    simp [Event.saved?] at h
  | wrote => simp [Event.places, StateStore.workPlaces]
  | loaded | made | failed | stopped => exact List.nil_subset _

/-- A list that is moved into place is read. -/
theorem read_of_renamed (h : Coherent s σ)
    (hstep : Step s σ (i, .finished records .renameTemporary) σ') :
    σ'.files.read s.statePath.toList = .ok (encode records) := by
  cases hstep with
  | finish hi hfree hwritten hend => exact read_of_renameTemporary (h.progress i _ _ _ hi) hend

/-- The state file changes when a list is moved into place, and then holds the text of the list. -/
theorem content_step (h : Coherent s σ) (hstep : Step s σ (i, event) σ') :
    s.content σ'.files =
      event.saved?.elim (s.content σ.files) fun records => some (encode records) := by
  cases hsaved : event.saved? with
  | none =>
    exact (keepsContents_step hstep).contentAt?_eq _ fun hmem =>
      s.stateFile_not_mem_workPlaces (places_subset_workPlaces hsaved hmem)
  | some records =>
    obtain rfl := Event.saved?_eq_some_iff.mp hsaved
    have hcontent := FileTree.contentAt?_of_read (read_of_renamed h hstep)
    rwa [StateStore.location_statePath] at hcontent

/-- What the state file holds after a run. -/
theorem content_run (h : Coherent s σ₀) (hrun : Run s σ₀ events σ) :
    s.content σ.files =
      (lastSaved events).elim (s.content σ₀.files) fun records => some (encode records) := by
  induction hrun with
  | nil => rfl
  | @snoc σ₁ σ₂ events event hrun hstep ih =>
    rw [content_step (coherent_run h hrun) hstep, ih, lastSaved_append, lastSaved_singleton]
    cases event.2.saved? <;> rfl

/-- Who moves no list into place touches no more than the files that a save works with. -/
theorem keepsContents_of_saved?_eq_none (hstep : Step s σ (i, event) σ')
    (hnone : event.saved? = none) : σ.files.KeepsContents s.workPlaces σ'.files :=
  (keepsContents_step hstep).mono (places_subset_workPlaces hnone)

/-- A run that moves no list into place touches no more than the files that a save works with. -/
theorem keepsContents_run (hrun : Run s σ events σ') (hnone : lastSaved events = none) :
    σ.files.KeepsContents s.workPlaces σ'.files := by
  induction hrun with
  | nil => exact .refl _ _
  | @snoc σ₁ σ₂ events event hrun hstep ih =>
    rw [lastSaved_append, lastSaved_singleton, Option.or_eq_none_iff] at hnone
    exact (ih hnone.2).trans (keepsContents_of_saved?_eq_none hstep hnone.1)

/-- The state file is read as before as long as no list is moved into place. -/
theorem read_run (hrun : Run s σ events σ') (hnone : lastSaved events = none) {content : ByteArray}
    (hread : σ.files.read s.statePath.toList = .ok content) :
    σ'.files.read s.statePath.toList = .ok content :=
  (keepsContents_run hrun hnone).read s.location_statePath_not_mem_workPlaces hread

/-! ### What is loaded -/

/-- A step leaves the path of the state file leading to what it holds. -/
theorem reads_step (h : Coherent s σ) (hreads : s.Reads σ.files)
    (hstep : Step s σ (i, event) σ') : s.Reads σ'.files := by
  intro content hcontent
  rw [content_step h hstep] at hcontent
  cases hsaved : event.saved? with
  | none =>
    rw [hsaved] at hcontent
    exact (keepsContents_of_saved?_eq_none hstep hsaved).read
      s.location_statePath_not_mem_workPlaces (hreads content hcontent)
  | some records =>
    obtain rfl := Event.saved?_eq_some_iff.mp hsaved
    obtain rfl := Option.some.inj hcontent
    exact read_of_renamed h hstep

/-- A run leaves the path of the state file leading to what it holds. -/
theorem reads_run (h : Coherent s σ₀) (hreads : s.Reads σ₀.files) (hrun : Run s σ₀ events σ) :
    s.Reads σ.files := by
  induction hrun with
  | nil => exact hreads
  | snoc hrun hstep ih => exact reads_step (coherent_run h hrun) ih hstep

/-- What is loaded after a run: the list that has been moved into place last, or what was loaded at
first. -/
theorem load_run (h : Coherent s σ₀) (hreads : s.Reads σ₀.files) (hrun : Run s σ₀ events σ) :
    s.load σ.files = (lastSaved events).getD (s.load σ₀.files) := by
  have hcontent := content_run h hrun
  have hreads' := reads_run h hreads hrun
  cases hlast : lastSaved events with
  | none =>
    rw [hlast] at hcontent
    exact hreads.load_eq hreads' hcontent
  | some records =>
    rw [hlast] at hcontent
    exact StateStore.load_of_read (hreads' _ hcontent)

/-! ### Saves side by side -/

/-- Writers that save lists work on their own list and no other. -/
theorem records_eq_of_start {lists : ι → List CommentRecord}
    (hstart : ∀ i, σ₀.writer i = .start (lists i)) (hrun : Run s σ₀ events σ)
    (hi : (σ.writer i).records? = some records) : records = lists i := by
  rcases records_run hrun hi with hi | ⟨_, _, σ₁, record, number, -, hbefore, hlinking, -⟩
  · rw [hstart i] at hi
    exact (Option.some.inj hi).symm
  · have hi := (not_mem_of_linking hbefore hlinking).1
    rw [hstart i] at hi
    exact absurd hi nofun

/-- A writer that saves a list does all its steps with that list. -/
theorem records_eq_of_mem {lists : ι → List CommentRecord} {step : SaveStep}
    (hstart : ∀ i, σ₀.writer i = .start (lists i)) (hrun : Run s σ₀ events σ)
    (hmem : (i, .finished records step) ∈ events) : records = lists i := by
  obtain ⟨before, after, rfl⟩ := List.append_of_mem hmem
  obtain ⟨σ₁, σ₂, hbefore, hstep, -⟩ := run_append_cons_iff.mp hrun
  exact records_eq_of_start hstart hbefore (records_of_finished hstep)

/-- A writer that has failed before or at the move has moved nothing into place. -/
theorem not_mem_of_failed {step : SaveStep} (hrun : Run s σ₀ events σ)
    (hi : σ.writer i = .failed step) (hstep : step ≠ .releaseLock) (records : List CommentRecord) :
    (i, .finished records .renameTemporary) ∉ events := by
  intro hmem
  have hrenamed := mayHaveRenamed_run hrun hmem
  rw [hi] at hrenamed
  cases step <;> simp_all [Writer.mayHaveRenamed]

/-- A list that has been saved is read until another writer moves a list into place. -/
theorem read_of_saved {before after : List (ι × Event)} (h : Coherent s σ₀)
    (hrun : Run s σ₀ (before ++ (i, .finished records .releaseLock) :: after) σ)
    (hafter : ∀ j records, j ≠ i → (j, .finished records .renameTemporary) ∉ after) :
    σ.files.read s.statePath.toList = .ok (encode records) := by
  obtain ⟨σ₁, σ₂, hbefore, hstep, hrest⟩ := run_append_cons_iff.mp hrun
  have hcoherent := coherent_run h hbefore
  cases hstep with
  | finish hi hfree hwritten hend =>
    have hread := hcoherent.progress i _ _ _ hi
    obtain rfl := Except.ok.inj hend
    refine read_run hrest (lastSaved_eq_none_iff.mpr fun j records' hmem => ?_) hread
    by_cases hj : j = i
    · -- the call has returned, so it takes no further step
      subst hj
      refine (hrest.writer_of_not_isRunning ?_).2 _ hmem
      dsimp only
      rw [Function.update_self]
      rfl
    · exact hafter j records' hj hmem

/-- Saves side by side, each of which may fail or stop at any step. The state file holds what it
held at first or the whole text of one of the lists. A save that has failed before it has moved its
list into place leaves the state file as the others have left it. A list that has been saved is
loaded until another save has moved its list into place. -/
theorem complete_document {lists : ι → List CommentRecord} (hfree : σ₀.holder = none)
    (hstart : ∀ i, σ₀.writer i = .start (lists i)) (hrun : Run s σ₀ events σ) :
    (s.content σ.files = s.content σ₀.files ∨
      ∃ i, s.content σ.files = some (encode (lists i))) ∧
    (∀ i step, σ.writer i = .failed step → step ≠ .releaseLock →
      s.content σ.files = (lastSaved (events.filter (·.1 ≠ i))).elim (s.content σ₀.files)
        fun records => some (encode records)) ∧
    ∀ i records before after, events = before ++ (i, .finished records .releaseLock) :: after →
      (∀ j records, j ≠ i → (j, .finished records .renameTemporary) ∉ after) →
      s.load σ.files = lists i := by
  have hcoherent : Coherent s σ₀ := coherent_of_start hfree fun i => .inl ⟨lists i, hstart i⟩
  have hcontent := content_run hcoherent hrun
  refine ⟨?_, fun i step hi hstep => ?_, fun i records before after hevents hafter => ?_⟩
  · cases hlast : lastSaved events with
    | none =>
      rw [hlast] at hcontent
      exact .inl hcontent
    | some records =>
      obtain ⟨i, hmem⟩ := exists_of_lastSaved hlast
      rw [hlast, records_eq_of_mem hstart hrun hmem] at hcontent
      exact .inr ⟨i, hcontent⟩
  · rw [lastSaved_filter_ne (not_mem_of_failed hrun hi hstep)]
    exact hcontent
  · subst hevents
    rw [StateStore.load_of_read (read_of_saved hcoherent hrun hafter)]
    exact records_eq_of_mem hstart hrun (List.mem_append_right _ List.mem_cons_self)

/-! ### A text that is left behind -/

/-- A longer list and a shorter one. -/
def sampleLists : Bool → List CommentRecord
  | false => [{ file := "a.ts", line := 1, text := "x", message := "x" }]
  | true => []

/-- Two writers about to save the lists in an empty directory. -/
def sampleSaves : Writers Bool :=
  ⟨.empty, none, fun i => .start (sampleLists i)⟩

/-- A save that fails leaves a part of its text in the temporary file, and the next one saves its
own list all the same. -/
theorem complete_document_after_cut_off :
    ∃ events σ, Run (.mk ".") sampleSaves events σ ∧
      σ.writer false = .failed .writeTemporary ∧ σ.writer true = .saved [] ∧
      (StateStore.content (.mk ".") σ.files = StateStore.content (.mk ".") sampleSaves.files ∨
        ∃ i, StateStore.content (.mk ".") σ.files = some (encode (sampleLists i))) ∧
      StateStore.content (.mk ".") σ.files =
        (lastSaved (events.filter (·.1 ≠ false))).elim
          (StateStore.content (.mk ".") sampleSaves.files) (fun records => some (encode records)) ∧
      StateStore.load (.mk ".") σ.files = [] := by
  have hcount : 1 ≤ (encode (sampleLists false)).size := by decide +kernel
  have hstart : ∀ i, sampleSaves.writer i = .start (sampleLists i) := fun _ => rfl
  obtain ⟨σ₁, hcut, hleft⟩ :=
    exists_run_cut_off FileTree.holdsTexts_empty.ready (hstart false) rfl hcount
  have hnext : σ₁.writer true = .start [] := hleft.others true (by decide)
  obtain ⟨σ₂, hsave, hleft₂, -⟩ := exists_run_of_ready hleft.ready hnext hleft.free
  have hrun := run_append_iff.mpr ⟨σ₁, hcut, hsave⟩
  have hfalse : σ₂.writer false = .failed .writeTemporary :=
    (hleft₂.others false (by decide)).trans hleft.writer
  obtain ⟨hwhole, hfailed, hsaved⟩ := complete_document rfl hstart hrun
  exact ⟨_, _, hrun, hfalse, hleft₂.writer, hwhole, hfailed false _ hfalse (by decide),
    hsaved true [] (cutOffEvents false (sampleLists false) 1 ++ (saveEvents true []).dropLast) []
      rfl (by simp)⟩

end TrackedComments.Writers

import Mathlib.Data.Bool.Basic
import TrackedComments.Proofs.Record
import TrackedComments.Proofs.Writers.Document

/-!
# Links that are recorded side by side

To record a link, a writer loads the list, links its record and saves what comes of that. The lock
is taken for the save, but the list is loaded before. So what another writer saves in between is not
in the list that is saved, and goes away when that list is moved into place.

## Main results

* `Writers.both_linked_iff`: two links that are recorded side by side are both there in the end
  exactly if one of the writers has loaded the list after the other one has moved its own into
  place, or the link of the first one was there before.
* `Writers.link_lost`: two writers that load the list before either of them saves.
-/

namespace TrackedComments.Writers

open CommentRecord

variable {ι : Type} {s : StateStore} {σ₀ σ : Writers ι} {i j : ι} {event : Event}
  {events before : List (ι × Event)} {records : List CommentRecord} {record : CommentRecord}
  {number : UInt64}

/-! ### The order of events -/

/-- Whether a writer moves its list into place in one of the events. -/
def Renames (events : List (ι × Event)) (i : ι) : Prop :=
  ∃ records, (i, .finished records .renameTemporary) ∈ events

/-- Whether a writer loads the list when another one has moved its own into place. -/
def LoadsAfter (events : List (ι × Event)) (i j : ι) : Prop :=
  ∃ before, before ++ [(i, .loaded)] <+: events ∧ Renames before j

/-- Whether a writer moves its list into place when another one has done so. -/
def RenamesAfter (events : List (ι × Event)) (i j : ι) : Prop :=
  ∃ before records, before ++ [(i, .finished records .renameTemporary)] <+: events ∧
    Renames before j

/-- What has been renamed in a first part has been renamed in the whole. -/
theorem Renames.of_prefix (h : Renames before i) (hpre : before <+: events) :
    Renames events i := by
  obtain ⟨records, hmem⟩ := h
  exact ⟨records, hpre.subset hmem⟩

/-- The list that has been moved into place last, with what has happened before. -/
theorem exists_prefix_of_lastSaved (h : lastSaved events = some records) :
    ∃ before i, before ++ [(i, .finished records .renameTemporary)] <+: events ∧
      ∀ j, j ≠ i → Renames events j → Renames before j := by
  induction events using List.reverseRecOn with
  | nil => simp at h
  | append_singleton events event ih =>
    obtain ⟨i, event⟩ := event
    rw [lastSaved_append, lastSaved_singleton] at h
    cases hsaved : event.saved? with
    | some records' =>
      obtain rfl := Event.saved?_eq_some_iff.mp hsaved
      obtain rfl := Option.some.inj h
      refine ⟨events, i, List.prefix_refl _, fun j hj ⟨records, hmem⟩ => ⟨records, ?_⟩⟩
      rcases List.mem_append.mp hmem with hmem | hmem
      · exact hmem
      · exact absurd (Prod.mk.inj (List.mem_singleton.mp hmem)).1 hj
    | none =>
      rw [hsaved, Option.none_or] at h
      obtain ⟨before, k, hpre, hbefore⟩ := ih h
      refine ⟨before, k, hpre.trans (List.prefix_append _ _), fun j hj ⟨records, hmem⟩ => ?_⟩
      rcases List.mem_append.mp hmem with hmem | hmem
      · exact hbefore j hj ⟨records, hmem⟩
      · obtain ⟨-, rfl⟩ := Prod.mk.inj (List.mem_singleton.mp hmem)
        simp [Event.saved?] at hsaved

variable [DecidableEq ι]

/-- Every event has happened in a step between two runs. -/
theorem exists_run_of_prefix (hrun : Run s σ₀ events σ)
    (hpre : before ++ [(i, event)] <+: events) :
    ∃ σ₁ σ₂, Run s σ₀ before σ₁ ∧ Step s σ₁ (i, event) σ₂ := by
  obtain ⟨after, rfl⟩ := hpre
  rw [List.append_assoc] at hrun
  obtain ⟨σ₁, σ₂, hbefore, hstep, -⟩ := run_append_cons_iff.mp hrun
  exact ⟨σ₁, σ₂, hbefore, hstep⟩

/-- Who loads the list has done nothing before. -/
theorem not_mem_of_loads (hrun : Run s σ₀ events σ) (hpre : before ++ [(i, .loaded)] <+: events)
    (event : Event) : (i, event) ∉ before := by
  obtain ⟨σ₁, σ₂, hbefore, hstep⟩ := exists_run_of_prefix hrun hpre
  cases hstep with
  | load hi => exact (not_mem_of_linking hbefore hi).2 event

/-- Who moves a list into place has not done so before. -/
theorem not_renames_of_renames (hrun : Run s σ₀ events σ)
    (hpre : before ++ [(i, .finished records .renameTemporary)] <+: events) :
    ¬ Renames before i := by
  rintro ⟨records, hmem⟩
  obtain ⟨σ₁, σ₂, hbefore, hstep⟩ := exists_run_of_prefix hrun hpre
  have hrenamed := mayHaveRenamed_run hbefore hmem
  cases hstep with
  | finish hi =>
    rw [hi] at hrenamed
    simp [Writer.mayHaveRenamed] at hrenamed

/-- A writer that records a link and has moved a list into place has linked its record in the list
that it has loaded. -/
theorem exists_loads_of_renames (hrun : Run s σ₀ events σ)
    (hstart : σ₀.writer i = .linking record number)
    (hmem : (i, .finished records .renameTemporary) ∈ events) :
    ∃ before σ₁, before ++ [(i, .loaded)] <+: events ∧ Run s σ₀ before σ₁ ∧
      records = StateStore.linkRecord (s.load σ₁.files) record number := by
  obtain ⟨earlier, later, rfl⟩ := List.append_of_mem hmem
  obtain ⟨σ₁, σ₂, hearlier, hstep, -⟩ := run_append_cons_iff.mp hrun
  rcases records_run hearlier (records_of_finished hstep) with hrecords |
    ⟨before, after, σ', record', number', rfl, hbefore, hlinking, hrecords⟩
  · rw [hstart] at hrecords
    exact absurd hrecords nofun
  · have hsame := hstart.symm.trans (not_mem_of_linking hbefore hlinking).1
    obtain ⟨rfl, rfl⟩ := Writer.linking.inj hsame
    exact ⟨before, σ', ⟨after ++ (i, .finished records .renameTemporary) :: later, by simp⟩,
      hbefore, hrecords⟩

/-- Who loads the list twice in a run loads it at the same point. -/
theorem prefix_of_loads (hrun : Run s σ₀ events σ) {other : List (ι × Event)}
    (hpre : before ++ [(i, .loaded)] <+: events) (hother : other ++ [(i, .loaded)] <+: events) :
    other <+: before := by
  have hcompare := List.prefix_or_prefix_of_prefix
    ((List.prefix_append other _).trans hother) hpre
  rcases hcompare with hle | hle
  · refine (List.prefix_concat_iff.mp hle).resolve_left ?_
    rintro rfl
    exact not_mem_of_loads hrun hother .loaded (by simp)
  · exact absurd (hle.subset (by simp)) (not_mem_of_loads hrun hother .loaded)

/-! ### Two writers -/

section Two

variable {σ₀ σ : Writers Bool} {events before : List (Bool × Event)}
  {record : Bool → CommentRecord} {number : Bool → UInt64} {y : Bool}

/-- Two writers about to record links of different comments, where the lock is free and the path of
the state file leads to what it holds. -/
structure AboutToLink (s : StateStore) (σ₀ : Writers Bool) (record : Bool → CommentRecord)
    (number : Bool → UInt64) : Prop where
  distinct : (record false).identity ≠ (record true).identity
  valid : σ₀.files.get? (s.place StateStore.stateFile) = none ∨ σ₀.files.Enters s.dir.toList
  free : σ₀.holder = none
  linking : ∀ i, σ₀.writer i = .linking (record i) (number i)

namespace AboutToLink

variable (h : AboutToLink s σ₀ record number)
include h

/-- The two records are for different lines. -/
theorem identity_ne (i : Bool) : (record i).identity ≠ (record !i).identity := by
  cases i
  · exact h.distinct
  · exact h.distinct.symm

/-- What is loaded is the list that has been moved into place last, or what was loaded at first. -/
theorem load_eq (hrun : Run s σ₀ events σ) :
    s.load σ.files = (lastSaved events).getD (s.load σ₀.files) :=
  load_run (coherent_of_start h.free fun i => .inr ⟨_, _, h.linking i⟩)
    (StateStore.reads_of_valid h.valid) hrun

/-- What a writer that has yet to load finds: the link of the other one, if that has moved its list
into place, or else what was there at first. -/
theorem linkedIn_load_iff (hrun : Run s σ₀ before σ) (hnone : ∀ event, (y, event) ∉ before) :
    (record !y).LinkedIn (number !y) (s.load σ.files) ↔
      Renames before (!y) ∨ (record !y).LinkedIn (number !y) (s.load σ₀.files) := by
  rw [h.load_eq hrun]
  cases hlast : lastSaved before with
  | none =>
    have hnot : ¬ Renames before (!y) := fun ⟨records, hmem⟩ =>
      lastSaved_eq_none_iff.mp hlast _ records hmem
    simp [hnot]
  | some records =>
    obtain ⟨z, hmem⟩ := exists_of_lastSaved hlast
    obtain rfl : z = !y := by
      refine Bool.eq_not_iff.mpr ?_
      rintro rfl
      exact hnone _ hmem
    obtain ⟨-, σ₁, -, -, rfl⟩ := exists_loads_of_renames hrun (h.linking _) hmem
    exact iff_of_true (StateStore.linkedIn_linkRecord _ _ _) (.inl ⟨_, hmem⟩)

/-- When both writers have returned, one of them has moved its list into place after the other. Its
link is there, and the link of the other one if it has loaded that, or if it was there at first. -/
theorem exists_last (hrun : Run s σ₀ events σ)
    (hsaved : ∀ i, ∃ records, σ.writer i = .saved records) :
    ∃ y, RenamesAfter events y (!y) ∧ ¬ RenamesAfter events (!y) y ∧ ¬ LoadsAfter events (!y) y ∧
      (record y).LinkedIn (number y) (s.load σ.files) ∧
      ((record !y).LinkedIn (number !y) (s.load σ.files) ↔
        LoadsAfter events y (!y) ∨ (record !y).LinkedIn (number !y) (s.load σ₀.files)) := by
  have hrenames (i : Bool) : Renames events i := by
    obtain ⟨records, hi⟩ := hsaved i
    have hrenamed : (σ.writer i).renamed? = some records := by rw [hi]; rfl
    rcases renamed_run hrun hrenamed with hstart | hmem
    · rw [h.linking i] at hstart
      exact absurd hstart nofun
    · exact ⟨records, hmem⟩
  obtain ⟨records, hlast⟩ : ∃ records, lastSaved events = some records := by
    refine Option.ne_none_iff_exists'.mp fun hnone => ?_
    obtain ⟨records, hmem⟩ := hrenames true
    exact lastSaved_eq_none_iff.mp hnone _ _ hmem
  obtain ⟨earlier, y, hpre, hothers⟩ := exists_prefix_of_lastSaved hlast
  have hfirst : Renames earlier (!y) := hothers _ (by simp) (hrenames _)
  have hmem : (y, .finished records .renameTemporary) ∈ events := hpre.subset (by simp)
  -- nothing that the first writer does before its list is in place comes after the move of the last
  have hnot {before : List (Bool × Event)} (hbefore : before <+: events)
      (hyet : ¬ Renames before (!y)) : ¬ Renames before y := by
    intro hrenames
    rcases List.prefix_or_prefix_of_prefix hbefore ((List.prefix_append _ _).trans hpre) with
      hle | hle
    · exact not_renames_of_renames hrun hpre (hrenames.of_prefix hle)
    · exact hyet (hfirst.of_prefix hle)
  obtain ⟨before, σ₁, hloads, hrun₁, rfl⟩ := exists_loads_of_renames hrun (h.linking y) hmem
  have hload : s.load σ.files = StateStore.linkRecord (s.load σ₁.files) (record y) (number y) := by
    rw [h.load_eq hrun, hlast, Option.getD_some]
  refine ⟨y, ⟨earlier, _, hpre, hfirst⟩, ?_, ?_, ?_, ?_⟩
  · rintro ⟨before', records', hpre', hrenames'⟩
    exact hnot ((List.prefix_append _ _).trans hpre') (not_renames_of_renames hrun hpre')
      hrenames'
  · rintro ⟨before', hpre', hrenames'⟩
    exact hnot ((List.prefix_append _ _).trans hpre')
      (fun ⟨_, hmem⟩ => not_mem_of_loads hrun hpre' _ hmem) hrenames'
  · rw [hload]
    exact StateStore.linkedIn_linkRecord _ _ _
  · rw [hload, StateStore.linkedIn_linkRecord_of_ne (h.identity_ne y).symm,
      h.linkedIn_load_iff hrun₁ (not_mem_of_loads hrun hloads)]
    refine or_congr_left ⟨fun hrenames' => ⟨before, hloads, hrenames'⟩, ?_⟩
    rintro ⟨before', hloads', hrenames'⟩
    exact hrenames'.of_prefix (prefix_of_loads hrun hloads hloads')

end AboutToLink

/-- Two links that are recorded side by side are both there in the end exactly if one of the writers
has loaded the list after the other one has moved its own into place, or if it has moved its list
into place after the other one whose link was there at first. -/
theorem both_linked_iff (h : AboutToLink s σ₀ record number) (hrun : Run s σ₀ events σ)
    (hsaved : ∀ i, ∃ records, σ.writer i = .saved records) :
    (∀ i, (record i).LinkedIn (number i) (s.load σ.files)) ↔
      ∃ i, LoadsAfter events (!i) i ∨
        RenamesAfter events (!i) i ∧ (record i).LinkedIn (number i) (s.load σ₀.files) := by
  obtain ⟨y, hafter, hnotRenames, hnotLoads, hlast, hfirst⟩ := h.exists_last hrun hsaved
  constructor
  · intro hboth
    refine ⟨!y, ?_⟩
    rw [Bool.not_not]
    exact (hfirst.mp (hboth _)).imp_right fun hlinked => ⟨hafter, hlinked⟩
  · rintro ⟨i, hi⟩ j
    have hother : (record !y).LinkedIn (number !y) (s.load σ.files) := by
      rcases Bool.eq_or_eq_not i y with rfl | rfl
      · exact (hi.elim hnotLoads fun hi => hnotRenames hi.1).elim
      · rw [Bool.not_not] at hi
        exact hfirst.mpr (hi.imp_right fun hi => hi.2)
    rcases Bool.eq_or_eq_not j y with rfl | rfl
    · exact hlast
    · exact hother

end Two

/-! ### Two writers in an empty directory -/

/-- Two comments to be linked. -/
def sampleRecord : Bool → CommentRecord
  | false => { file := "a.ts", line := 1, text := "x", message := "x" }
  | true => { file := "b.ts", line := 1, text := "y", message := "y" }

/-- The issues that they are to be linked to. -/
def sampleNumber : Bool → UInt64
  | false => 1
  | true => 2

/-- Two writers about to record the links. -/
def sampleLinkers : Writers Bool :=
  ⟨.empty, none, fun i => .linking (sampleRecord i) (sampleNumber i)⟩

/-- The two writers are about to record their links. -/
theorem aboutToLink_sampleLinkers :
    AboutToLink (.mk ".") sampleLinkers sampleRecord sampleNumber :=
  ⟨by decide, .inr (FileTree.enters_current _), rfl, fun _ => rfl⟩

/-- If one writer records its link after the other one has returned, both links are there. -/
theorem both_linked_in_turn :
    ∃ events σ, Run (.mk ".") sampleLinkers events σ ∧
      (∀ i, ∃ records, σ.writer i = .saved records) ∧
      ∀ i, (sampleRecord i).LinkedIn (sampleNumber i) (StateStore.load (.mk ".") σ.files) := by
  have hstart := aboutToLink_sampleLinkers
  obtain ⟨σ₁, first, hfirst, hleft₁⟩ := exists_run_of_ready_of_linking
    FileTree.holdsTexts_empty.ready (hstart.linking false) hstart.free
  have hnext : σ₁.writer true = .linking (sampleRecord true) (sampleNumber true) :=
    hleft₁.others true (by decide)
  obtain ⟨σ₂, second, hsecond, hleft₂⟩ :=
    exists_run_of_ready_of_linking hleft₁.ready hnext hleft₁.free
  have hrun := run_append_iff.mpr ⟨σ₁, hfirst, hsecond⟩
  have hsaved : ∀ i, ∃ records, σ₂.writer i = .saved records := by
    rintro (_ | _)
    · exact ⟨first, (hleft₂.others false (by decide)).trans hleft₁.writer⟩
    · exact ⟨second, hleft₂.writer⟩
  have hafter : LoadsAfter ((false, .loaded) :: saveEvents false first ++
      (true, .loaded) :: saveEvents true second) true false := by
    refine ⟨(false, .loaded) :: saveEvents false first, ?_, first, ?_⟩
    · simp
    · simp [saveEvents]
  exact ⟨_, σ₂, hrun, hsaved, (both_linked_iff hstart hrun hsaved).mpr ⟨false, .inl hafter⟩⟩

/-- Two writers that load the list before either of them saves. Both calls return without an error,
and the link of the first one is lost. -/
theorem link_lost :
    AboutToLink (.mk ".") sampleLinkers sampleRecord sampleNumber ∧
    ∃ events σ, Run (.mk ".") sampleLinkers events σ ∧
      (∀ i, ∃ records, σ.writer i = .saved records) ∧
      ¬ (sampleRecord false).LinkedIn (sampleNumber false)
        (StateStore.load (.mk ".") σ.files) := by
  have hempty : StateStore.load (.mk ".") sampleLinkers.files = [] :=
    StateStore.load_of_get?_eq_none (by decide)
  -- both writers have loaded the empty list and linked their record in it
  let σ₁ := sampleLinkers.setWriter false (.start (StateStore.linkRecord
    (StateStore.load (.mk ".") sampleLinkers.files) (sampleRecord false) (sampleNumber false)))
  let σ₂ := σ₁.setWriter true (.start (StateStore.linkRecord
    (StateStore.load (.mk ".") sampleLinkers.files) (sampleRecord true) (sampleNumber true)))
  have hloads : Run (.mk ".") sampleLinkers [(false, .loaded), (true, .loaded)] σ₂ :=
    .cons (.load rfl) (.cons (.load rfl) (.nil σ₂))
  obtain ⟨σ₃, hfirst, hleft₃, -⟩ := exists_run_of_ready
    (show StateStore.Ready (.mk ".") σ₂.files from FileTree.holdsTexts_empty.ready)
    (show σ₂.writer false = .start _ from rfl) rfl
  have hnext : σ₃.writer true = .start _ := hleft₃.others true (by decide)
  obtain ⟨σ₄, hsecond, hleft₄, hload⟩ := exists_run_of_ready hleft₃.ready hnext hleft₃.free
  have hrun := run_append_iff.mpr ⟨σ₂, hloads, run_append_iff.mpr ⟨σ₃, hfirst, hsecond⟩⟩
  refine ⟨aboutToLink_sampleLinkers, _, σ₄, hrun, ?_, ?_⟩
  · rintro (_ | _)
    · exact ⟨_, (hleft₄.others false (by decide)).trans hleft₃.writer⟩
    · exact ⟨_, hleft₄.writer⟩
  · rw [hload, hempty, StateStore.linkedIn_linkRecord_of_ne (by decide)]
    simp [LinkedIn]

end TrackedComments.Writers

import Mathlib.Logic.Function.Basic
import TrackedComments.Proofs.FileTree.Contents
import TrackedComments.Proofs.Store.Save

/-!
# Writers side by side

Several processes may work with one store at the same time. A writer makes one call: it saves a
list, or it loads the saved list, links a record in it and saves what comes of that. The steps of
the writers come in any order. Each step of a save may fail, so that the call returns with an error,
and a writer may stop for good at any time. Text goes into the temporary file in pieces, and
directories are created one after another, so that a step may also be broken off in the middle.

The lock is taken by one writer at a time. It is given back when its holder returns or stops.

## Main definitions

* `Writers.Step`: one step of one writer, with the event that it is.
* `Writers.Run`: any number of steps, with their events in order.

## Main results

* `Writers.run_append_iff`: a run can be cut anywhere.
* `Writers.Run.writer_of_not_isRunning`: who has returned or stopped takes no part any more.
-/

namespace TrackedComments

/-! ### Steps of a save -/

namespace SaveStep

/-- The step of a save after another one. -/
def next? (step : SaveStep) : Option SaveStep :=
  (StateStore.saveSteps.dropWhile (· != step))[1]?

/-- Whether the lock is held while a step is to be done. -/
def holdsLock : SaveStep → Bool
  | createDirectory | openLock | acquireLock => false
  | openTemporary | writeTemporary | syncTemporary | renameTemporary | releaseLock => true

/-- Who holds the lock after a writer has done a step. -/
def passLock {ι : Type} (i : ι) (holder : Option ι) : SaveStep → Option ι
  | acquireLock => some i
  | releaseLock => none
  | _ => holder

end SaveStep

namespace StateStore

/-- What is left to do at the end of a step. By then the text has been written. -/
def endStep (s : StateStore) (text : String) (t : FileTree) : SaveStep → Except OsError FileTree
  | .writeTemporary => .ok t
  | step => s.runStep text t step

/-- What the state file holds. -/
def content (s : StateStore) (t : FileTree) : Option ByteArray :=
  t.contentAt? (s.place stateFile)

end StateStore

/-- The bytes that a list of records is saved as. -/
def StateText.encode (records : List CommentRecord) : ByteArray :=
  (write records).toUTF8

/-! ### Loading -/

namespace StateStore

variable {s : StateStore} {t t' : FileTree}

/-- Whoever reads the bytes of a list loads the list. -/
theorem load_of_read {records : List CommentRecord}
    (hread : t.read s.statePath.toList = .ok (StateText.encode records)) : s.load t = records := by
  rw [load_of_readText (FileTree.readText_eq_ok_iff.mpr hread), StateText.read?_write,
    Option.getD_some]

/-- Whether the path of the state file leads to what the state file holds. It may fail to do so
where a directory on its way is missing. -/
def Reads (s : StateStore) (t : FileTree) : Prop :=
  ∀ content, s.content t = some content → t.read s.statePath.toList = .ok content

/-- The path of the state file leads to what it holds if there is nothing, or if the directory can
be entered. -/
theorem reads_of_valid (h : t.get? (s.place stateFile) = none ∨ t.Enters s.dir.toList) :
    s.Reads t := by
  intro content hcontent
  have hnode := FileTree.contentAt?_eq_some_iff.mp hcontent
  rcases h with hnone | henters
  · simp [hnone] at hnode
  · have hstate : s.statePath.toList = Path.join s.dir.toList stateFile.toList :=
      String.toList_ofList
    have hlocate := locate_of_enters henters stateFile (by decide)
    rw [← location_statePath] at hlocate hnode
    rw [← hstate] at hlocate
    exact FileTree.read_eq_ok_iff.mpr ⟨hlocate, hnode⟩

/-- Without a state file nothing is loaded. -/
theorem load_of_content_eq_none (h : s.content t = none) : s.load t = [] := by
  unfold load
  split
  · rename_i text htext
    have hread := FileTree.contentAt?_of_read (FileTree.readText_eq_ok_iff.mp htext)
    rw [location_statePath] at hread
    simp [content, hread] at h
  · rfl

/-- Where the path of the state file leads to what it holds, equal contents are loaded alike. -/
theorem Reads.load_eq (h : s.Reads t) (h' : s.Reads t') (hcontent : s.content t' = s.content t) :
    s.load t' = s.load t := by
  cases hsame : s.content t with
  | none => rw [load_of_content_eq_none hsame, load_of_content_eq_none (hcontent.trans hsame)]
  | some content =>
    have hread := h content hsame
    have hread' := h' content (hcontent.trans hsame)
    have htext : t'.readText s.statePath.toList = t.readText s.statePath.toList := by
      unfold FileTree.readText
      rw [hread, hread']
    unfold load
    rw [htext]

end StateStore

/-! ### Writers -/

/-- How far a writer has come with its call. -/
inductive Writer where
  /-- The saved list has yet to be loaded, and a record to be linked in it. -/
  | linking (record : CommentRecord) (number : UInt64)
  /-- A step of saving a list is to be done. Some bytes of its text have been written. -/
  | saving (records : List CommentRecord) (step : SaveStep) (written : Nat)
  /-- The call has returned. -/
  | saved (records : List CommentRecord)
  /-- The call has returned with an error from a step. -/
  | failed (step : SaveStep)
  /-- The call never returns. -/
  | stopped
  deriving Inhabited

namespace Writer

/-- A writer about to save a list. -/
def start (records : List CommentRecord) : Writer :=
  saving records .createDirectory 0

/-- A writer that has done a step of saving a list. -/
def after (records : List CommentRecord) (step : SaveStep) (written : Nat) : Writer :=
  match step.next? with
  | some next => saving records next written
  | none => saved records

/-- Whether something is left to do. -/
def isRunning : Writer → Bool
  | linking _ _ | saving _ _ _ => true
  | saved _ | failed _ | stopped => false

/-- Whether a writer holds the lock. -/
def holdsLock : Writer → Bool
  | saving _ step _ => step.holdsLock
  | _ => false

end Writer

/-- Writers that share files and a lock. -/
structure Writers (ι : Type) where
  files : FileTree
  holder : Option ι
  writer : ι → Writer

namespace Writers

/-- What a writer does in a step. -/
inductive Event where
  | loaded
  /-- Some of the directories that lead to the state file have been created. -/
  | made (count : Nat)
  /-- Some bytes of the text have been written. -/
  | wrote (count : Nat)
  | finished (records : List CommentRecord) (step : SaveStep)
  | failed (step : SaveStep)
  | stopped
  deriving DecidableEq

variable {ι : Type} [DecidableEq ι]

/-- The writers after one of them has gone on. -/
def setWriter (σ : Writers ι) (i : ι) (w : Writer) : Writers ι :=
  { σ with writer := Function.update σ.writer i w }

/-- The writers after one of them has returned or stopped before its last step. -/
def leave (σ : Writers ι) (i : ι) (w : Writer) : Writers ι :=
  { σ.setWriter i w with holder := if σ.holder = some i then none else σ.holder }

@[simp] theorem writer_setWriter (σ : Writers ι) (i : ι) (w : Writer) :
    (σ.setWriter i w).writer i = w :=
  Function.update_self ..

@[simp] theorem writer_leave (σ : Writers ι) (i : ι) (w : Writer) : (σ.leave i w).writer i = w :=
  Function.update_self ..

theorem holder_leave (σ : Writers ι) (i : ι) (w : Writer) :
    (σ.leave i w).holder = if σ.holder = some i then none else σ.holder := rfl

/-- One step of one writer. -/
inductive Step (s : StateStore) : Writers ι → ι × Event → Writers ι → Prop where
  | load {σ : Writers ι} {i : ι} {record : CommentRecord} {number : UInt64}
      (hi : σ.writer i = .linking record number) :
      Step s σ (i, .loaded)
        (σ.setWriter i (.start (StateStore.linkRecord (s.load σ.files) record number)))
  | make {σ : Writers ι} {i : ι} {records : List CommentRecord} {written count : Nat}
      {files : FileTree} (hi : σ.writer i = .saving records .createDirectory written)
      (hmake : σ.files.createDirectoriesFrom []
        ((Chars.splitAtChar '/' s.dir.toList).take count) = .ok files) :
      Step s σ (i, .made count) { σ with files }
  | write {σ : Writers ι} {i : ι} {records : List CommentRecord} {written count : Nat}
      (hi : σ.writer i = .saving records .writeTemporary written)
      (hcount : written + count ≤ (StateText.encode records).size) :
      Step s σ (i, .wrote count)
        { σ.setWriter i (.saving records .writeTemporary (written + count)) with
          files := σ.files.writeAt (s.place StateStore.temporaryFile) written
            ((StateText.encode records).extract written (written + count)) }
  | finish {σ : Writers ι} {i : ι} {records : List CommentRecord} {step : SaveStep}
      {written : Nat} {files : FileTree} (hi : σ.writer i = .saving records step written)
      (hfree : step = .acquireLock → σ.holder = none)
      (hwritten : step = .writeTemporary → written = (StateText.encode records).size)
      (hend : s.endStep (StateText.write records) σ.files step = .ok files) :
      Step s σ (i, .finished records step)
        ⟨files, step.passLock i σ.holder, Function.update σ.writer i (.after records step written)⟩
  | fail {σ : Writers ι} {i : ι} {records : List CommentRecord} {step : SaveStep}
      {written : Nat} (hi : σ.writer i = .saving records step written) :
      Step s σ (i, .failed step) (σ.leave i (.failed step))
  | stop {σ : Writers ι} {i : ι} (hi : (σ.writer i).isRunning) :
      Step s σ (i, .stopped) (σ.leave i .stopped)

/-- Any number of steps, one after another. -/
inductive Run (s : StateStore) : Writers ι → List (ι × Event) → Writers ι → Prop where
  | nil (σ : Writers ι) : Run s σ [] σ
  | snoc {σ σ' σ'' : Writers ι} {events : List (ι × Event)} {event : ι × Event} :
      Run s σ events σ' → Step s σ' event σ'' → Run s σ (events ++ [event]) σ''

variable {s : StateStore} {σ σ' σ'' : Writers ι} {i j : ι} {event : Event}
  {events more : List (ι × Event)}

theorem run_nil_iff : Run s σ [] σ' ↔ σ' = σ := by
  constructor
  · intro h
    generalize hnil : ([] : List (ι × Event)) = none at h
    cases h with
    | nil => rfl
    | snoc => simp at hnil
  · rintro rfl
    exact .nil σ'

/-- A run but for its last step, and that step. -/
theorem run_concat_iff {event : ι × Event} :
    Run s σ (events ++ [event]) σ'' ↔ ∃ σ', Run s σ events σ' ∧ Step s σ' event σ'' := by
  constructor
  · intro h
    generalize hall : events ++ [event] = all at h
    cases h with
    | nil => simp at hall
    | snoc hrun hstep =>
      obtain ⟨rfl, hlast⟩ := List.append_inj' hall rfl
      obtain rfl := List.singleton_inj.mp hlast
      exact ⟨_, hrun, hstep⟩
  · rintro ⟨σ', hrun, hstep⟩
    exact .snoc hrun hstep

/-- A run can be cut anywhere. -/
theorem run_append_iff :
    Run s σ (events ++ more) σ'' ↔ ∃ σ', Run s σ events σ' ∧ Run s σ' more σ'' := by
  induction more using List.reverseRecOn generalizing σ'' with
  | nil => simp [run_nil_iff]
  | append_singleton init last ih =>
    simp only [← List.append_assoc, run_concat_iff, ih]
    constructor
    · rintro ⟨σ₂, ⟨σ₁, hfirst, hrest⟩, hstep⟩
      exact ⟨σ₁, hfirst, σ₂, hrest, hstep⟩
    · rintro ⟨σ₁, hfirst, σ₂, hrest, hstep⟩
      exact ⟨σ₂, ⟨σ₁, hfirst, hrest⟩, hstep⟩

/-- What happens first in a run, and the rest of it. -/
theorem run_cons_iff {event : ι × Event} :
    Run s σ (event :: events) σ'' ↔ ∃ σ', Step s σ event σ' ∧ Run s σ' events σ'' := by
  have hfirst {σ' : Writers ι} : Run s σ [event] σ' ↔ Step s σ event σ' := by
    rw [← List.nil_append [event], run_concat_iff]
    simp [run_nil_iff]
  rw [← List.singleton_append, run_append_iff]
  simp only [hfirst]

/-- A step before a run makes a longer run. -/
theorem Run.cons {event : ι × Event} (hstep : Step s σ event σ') (hrun : Run s σ' events σ'') :
    Run s σ (event :: events) σ'' :=
  run_cons_iff.mpr ⟨σ', hstep, hrun⟩

/-- A run before and after one of its steps. -/
theorem run_append_cons_iff {event : ι × Event} :
    Run s σ (events ++ event :: more) σ'' ↔
      ∃ σ₁ σ₂, Run s σ events σ₁ ∧ Step s σ₁ event σ₂ ∧ Run s σ₂ more σ'' := by
  simp only [run_append_iff, run_cons_iff]
  constructor
  · rintro ⟨σ₁, hbefore, σ₂, hstep, hafter⟩
    exact ⟨σ₁, σ₂, hbefore, hstep, hafter⟩
  · rintro ⟨σ₁, σ₂, hbefore, hstep, hafter⟩
    exact ⟨σ₁, hbefore, σ₂, hstep, hafter⟩

/-! ### Taking part -/

/-- Only a writer that is running takes a step. -/
theorem Step.isRunning (h : Step s σ (i, event) σ') : (σ.writer i).isRunning := by
  cases h with
  | load hi | make hi | write hi | finish hi | fail hi => rw [hi]; rfl
  | stop hi => exact hi

/-- A step of one writer is none of the others. -/
theorem Step.writer_of_ne (h : Step s σ (i, event) σ') (hne : j ≠ i) :
    σ'.writer j = σ.writer j := by
  cases h with
  | make => rfl
  | load | write | finish | fail | stop => exact Function.update_of_ne hne _ _

/-- Who has returned or stopped takes no part any more. -/
theorem Run.writer_of_not_isRunning (h : Run s σ events σ')
    (hi : (σ.writer i).isRunning = false) :
    σ'.writer i = σ.writer i ∧ ∀ event, (i, event) ∉ events := by
  induction h with
  | nil => simp
  | @snoc σ₁ σ₂ events event hrun hstep ih =>
    obtain ⟨j, event⟩ := event
    obtain ⟨hsame, hnone⟩ := ih
    have hne : i ≠ j := by
      rintro rfl
      have hrunning := hstep.isRunning
      rw [hsame, hi] at hrunning
      simp at hrunning
    refine ⟨(hstep.writer_of_ne hne).trans hsame, fun e hmem => ?_⟩
    rcases List.mem_append.mp hmem with hmem | hmem
    · exact hnone e hmem
    · obtain ⟨rfl, -⟩ := Prod.mk.inj (List.mem_singleton.mp hmem)
      exact hne rfl

end Writers

end TrackedComments

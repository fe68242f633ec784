import Mathlib.Tactic.Common
import TrackedComments.Scan.Window

/-!
# Every schedule reads alike

The order in which reads complete does not show in the result of a scan. Between two rounds the
outcomes handed on, the window and the waiting files are the listed files in their order, and the
first read of the window is one that has not completed. So every round finds a read to complete
until all have, and then the window is empty.

## Main results

* `ReadWindow.Reads.round`: what holds between two rounds.
* `ReadWindow.remaining_round`: a round leaves one read fewer.
* `readAll_eq_map`: all outcomes, in the order of the files.
-/

namespace TrackedComments

namespace ReadWindow

variable {size : Nat} {read : String → ScanOutcome} {files : List String} {w : ReadWindow}

/-- What holds of the window of a scan of some files at any time. -/
structure InOrder (read : String → ScanOutcome) (files : List String) (w : ReadWindow) : Prop where
  /-- No file is lost or moved. -/
  order : w.finished.reverse.map Prod.fst ++ (w.inFlight.map Prod.fst ++ w.waiting) = files
  finished : ∀ e ∈ w.finished, e.2 = read e.1
  inFlight : ∀ e ∈ w.inFlight, ∀ outcome ∈ e.2, outcome = read e.1

/-- What holds of it between two rounds. -/
structure Reads (read : String → ScanOutcome) (files : List String) (w : ReadWindow) : Prop
    extends InOrder read files w where
  /-- What can be handed on has been. -/
  front : ∀ e ∈ w.inFlight.head?, e.2 = none

/-- How many reads have not completed, those that have not started included. -/
def remaining (w : ReadWindow) : Nat :=
  w.waiting.length + w.pendingCount

/-- At the start no file has been read and all are to be. -/
theorem reads_start (read : String → ScanOutcome) (files : List String) :
    Reads read files (start files) where
  order := by simp [start]
  finished := by simp [start]
  inFlight := by simp [start]
  front := by simp [start]

/-! ### Filling the window -/

/-- Filling the window leaves the files in order. -/
theorem InOrder.refill (h : InOrder read files w) (size : Nat) :
    InOrder read files (w.refill size) := by
  refine ⟨?_, h.finished, fun e he outcome houtcome => ?_⟩
  · rw [← h.order]
    simp [ReadWindow.refill, Function.comp_def]
  · rcases List.mem_append.mp he with he | he
    · exact h.inFlight e he outcome houtcome
    · obtain ⟨file, -, rfl⟩ := List.mem_map.mp he
      simp at houtcome

/-- Filling the window completes no read. -/
theorem remaining_refill (size : Nat) (w : ReadWindow) :
    (w.refill size).remaining = w.remaining := by
  have hlength := congrArg List.length (List.take_append_drop (size - w.inFlight.length) w.waiting)
  rw [List.length_append] at hlength
  simp only [remaining, refill, pendingCount, List.countP_append, List.countP_map,
    Function.comp_def, Option.isNone_none, List.countP_true]
  omega

/-- As long as there are reads left, a full window holds one that has not completed. -/
theorem Reads.pendingCount_refill_pos (h : Reads read files w) (hsize : 1 ≤ size)
    (hremaining : 0 < w.remaining) : 0 < (w.refill size).pendingCount := by
  rw [pendingCount, List.countP_pos_iff]
  cases hflight : w.inFlight with
  | cons e rest =>
    have hfront := h.front e (by simp [hflight])
    exact ⟨e, by simp [ReadWindow.refill, hflight], by simp [hfront]⟩
  | nil =>
    cases hwaiting : w.waiting with
    | nil => simp [remaining, pendingCount, hflight, hwaiting] at hremaining
    | cons file rest =>
      obtain ⟨room, rfl⟩ : ∃ room, size = room + 1 := ⟨size - 1, by omega⟩
      exact ⟨(file, none), by simp [ReadWindow.refill, hflight, hwaiting], rfl⟩

/-! ### Completing a read -/

/-- The completion of a read does not move the files in the window. -/
theorem map_fst_completeAt (read : String → ScanOutcome) (index : Nat)
    (inFlight : List (String × Option ScanOutcome)) :
    (completeAt read index inFlight).map Prod.fst = inFlight.map Prod.fst := by
  fun_induction completeAt read index inFlight <;> simp_all

/-- An outcome that is there after a read has completed is that of this read or was there before. -/
theorem mem_completeAt {index : Nat} {inFlight : List (String × Option ScanOutcome)}
    {e : String × Option ScanOutcome} (he : e ∈ completeAt read index inFlight) :
    e ∈ inFlight ∨ e.2 = some (read e.1) := by
  fun_induction completeAt read index inFlight with
  | case1 => simp at he
  | case2 index file outcome rest ih | case4 index file rest ih =>
    rcases List.mem_cons.mp he with rfl | he
    · exact .inl List.mem_cons_self
    · exact (ih he).imp_left (List.mem_cons_of_mem _)
  | case3 file rest =>
    rcases List.mem_cons.mp he with rfl | he
    · exact .inr rfl
    · exact .inl (List.mem_cons_of_mem _ he)

/-- The completion of a read leaves the files in order. -/
theorem InOrder.complete (h : InOrder read files w) (choice : Nat) :
    InOrder read files (w.complete read choice) := by
  refine ⟨?_, h.finished, fun e he outcome houtcome => ?_⟩
  · rw [← h.order, ReadWindow.complete, map_fst_completeAt]
  · rcases mem_completeAt he with he | he
    · exact h.inFlight e he outcome houtcome
    · exact (Option.some.inj (he.symm.trans houtcome)).symm

/-- The completion of a read leaves one fewer that has not completed. -/
theorem countP_completeAt (read : String → ScanOutcome) {index : Nat}
    {inFlight : List (String × Option ScanOutcome)}
    (h : index < inFlight.countP (·.2.isNone)) :
    (completeAt read index inFlight).countP (·.2.isNone) + 1 =
      inFlight.countP (·.2.isNone) := by
  fun_induction completeAt read index inFlight with
  | case1 => simp at h
  | case2 index file outcome rest ih => simpa using ih (by simpa using h)
  | case3 => simp
  | case4 index file rest ih =>
    have hrest := ih (by simpa using h)
    simp only [List.countP_cons, Option.isNone_none, if_true]
    omega

/-- If no read is left to complete, nothing happens. -/
theorem completeAt_of_countP_eq_zero {index : Nat} {inFlight : List (String × Option ScanOutcome)}
    (h : inFlight.countP (·.2.isNone) = 0) : completeAt read index inFlight = inFlight := by
  fun_induction completeAt read index inFlight with
  | case1 => rfl
  | case2 index file outcome rest ih => rw [ih (by simpa using h)]
  | case3 | case4 => simp at h

/-- The completion of a read leaves one fewer, if one was left. -/
theorem pendingCount_complete (read : String → ScanOutcome) (choice : Nat) (w : ReadWindow) :
    (w.complete read choice).pendingCount = w.pendingCount - 1 := by
  rcases Nat.eq_zero_or_pos w.pendingCount with hzero | hpos
  · rw [pendingCount, complete, completeAt_of_countP_eq_zero hzero, ← pendingCount, hzero]
  · have h := countP_completeAt read (Nat.mod_lt choice hpos)
    exact Nat.eq_sub_of_add_eq h

/-! ### Handing on -/

/-- What is handed on are the completed reads at the front. -/
theorem handOnFrom_spec (finished : List (String × ScanOutcome))
    (inFlight : List (String × Option ScanOutcome)) :
    ∃ done : List (String × ScanOutcome),
      inFlight = done.map (fun e => (e.1, some e.2)) ++ (handOnFrom finished inFlight).2 ∧
      (handOnFrom finished inFlight).1 = done.reverse ++ finished ∧
      ∀ e ∈ (handOnFrom finished inFlight).2.head?, e.2 = none := by
  fun_induction handOnFrom finished inFlight with
  | case1 finished file outcome rest ih =>
    obtain ⟨done, hflight, hfinished, hfront⟩ := ih
    exact ⟨(file, outcome) :: done, by simpa using hflight, by simpa using hfinished, hfront⟩
  | case2 finished inFlight hnot =>
    refine ⟨[], by simp, by simp, fun e he => ?_⟩
    cases inFlight with
    | nil => simp at he
    | cons first rest =>
      obtain rfl : first = e := by simpa using he
      obtain ⟨file, outcome⟩ := first
      cases outcome with
      | none => rfl
      | some outcome => exact absurd rfl (hnot file outcome rest)

/-- After completed reads have been handed on, none stands at the front. -/
theorem InOrder.handOn (h : InOrder read files w) : Reads read files w.handOn := by
  obtain ⟨done, hflight, hfinished, hfront⟩ := handOnFrom_spec w.finished w.inFlight
  have hright := h.inFlight
  have horder := h.order
  rw [hflight] at hright horder
  refine ⟨⟨?_, ?_, ?_⟩, hfront⟩
  · simp only [ReadWindow.handOn, hfinished]
    simpa [Function.comp_def] using horder
  · intro e he
    simp only [ReadWindow.handOn, hfinished] at he
    rcases List.mem_append.mp he with hdone | hdone
    · refine hright (e.1, some e.2) (List.mem_append_left _ ?_) e.2 rfl
      exact List.mem_map.mpr ⟨e, List.mem_reverse.mp hdone, rfl⟩
    · exact h.finished e hdone
  · exact fun e he => hright e (List.mem_append_right _ he)

/-- Handing on completes no read. -/
theorem remaining_handOn (w : ReadWindow) : w.handOn.remaining = w.remaining := by
  obtain ⟨done, hflight, -, -⟩ := handOnFrom_spec w.finished w.inFlight
  have hpending : w.handOn.pendingCount = w.pendingCount := by
    rw [pendingCount, pendingCount, hflight, List.countP_append, List.countP_map]
    simp [Function.comp_def, handOn]
  rw [remaining, hpending]
  rfl

/-! ### Rounds -/

/-- A round leads from between two rounds to between two rounds. -/
theorem Reads.round (h : Reads read files w) (size choice : Nat) :
    Reads read files (w.round size read choice) :=
  ((h.toInOrder.refill size).complete choice).handOn

/-- A round leaves one read fewer. -/
theorem remaining_round (h : Reads read files w) (hsize : 1 ≤ size) (choice : Nat) :
    (w.round size read choice).remaining = w.remaining - 1 := by
  have hrefill := remaining_refill size w
  have hcomplete := pendingCount_complete read choice (w.refill size)
  have hwaiting : ((w.refill size).complete read choice).waiting = (w.refill size).waiting := rfl
  rw [remaining] at hrefill
  rw [round, remaining_handOn, remaining, hwaiting, hcomplete]
  rcases Nat.eq_zero_or_pos w.remaining with hzero | hpos
  · omega
  · have hpending := h.pendingCount_refill_pos hsize hpos
    omega

/-- After some rounds the window is between two rounds, and as many reads have completed. -/
theorem reads_run (h : Reads read files w) (hsize : 1 ≤ size) (choices : Nat → Nat)
    (rounds : Nat) : Reads read files (run size read choices rounds w) ∧
      (run size read choices rounds w).remaining = w.remaining - rounds := by
  induction rounds generalizing w with
  | zero => exact ⟨h, rfl⟩
  | succ rounds ih =>
    obtain ⟨hreads, hremaining⟩ := ih (h.round size (choices rounds))
    rw [remaining_round h hsize] at hremaining
    exact ⟨hreads, by rw [run, hremaining]; omega⟩

/-- When no reads remain, all outcomes have been handed on. -/
theorem Reads.finished_eq (h : Reads read files w) (hremaining : w.remaining = 0) :
    w.finished.reverse = files.map fun file => (file, read file) := by
  have hwaiting : w.waiting = [] :=
    List.eq_nil_of_length_eq_zero (Nat.eq_zero_of_add_eq_zero hremaining).1
  have hflight : w.inFlight = [] := by
    cases hw : w.inFlight with
    | nil => rfl
    | cons e rest =>
      have hfront := h.front e (by simp [hw])
      simp [remaining, pendingCount, hw, hfront] at hremaining
  have horder := h.order
  rw [hwaiting, hflight, List.map_nil, List.append_nil, List.append_nil] at horder
  rw [← horder, List.map_map]
  have hid : w.finished.reverse.map ((fun file => (file, read file)) ∘ Prod.fst) =
      w.finished.reverse.map id := by
    refine List.map_congr_left fun e he => ?_
    simp [← h.finished e (List.mem_reverse.mp he)]
  rw [hid, List.map_id]

end ReadWindow

/-- All files are read, each once, and the outcomes come in the order of the files, whatever the
order in which the reads complete. -/
theorem readAll_eq_map {size : Nat} (hsize : 1 ≤ size) (read : String → ScanOutcome)
    (choices : Nat → Nat) (files : List String) :
    readAll size read choices files = files.map fun file => (file, read file) := by
  obtain ⟨hreads, hremaining⟩ :=
    ReadWindow.reads_run (ReadWindow.reads_start read files) hsize choices files.length
  refine hreads.finished_eq ?_
  rw [hremaining, ReadWindow.remaining]
  simp [ReadWindow.start, ReadWindow.pendingCount]

end TrackedComments

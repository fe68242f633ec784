import TrackedComments.CommentTree
import TrackedComments.Proofs.Record

/-!
# Trees that others watch

A tree is changed step by step while others watch it: they join at some point and ask at others
whether it has changed since they looked last. The counter of the tree moves by one in each step
that may change what the tree shows, and in no other. So nobody misses a change: who has looked at
the tree once and asks again later is told of a change if there has been a step of this kind in
between, in particular if the tree shows something else than before.

## Main definitions

* `WatchedTree.step`: one step of a tree with its subscribers.
* `WatchedTree.signalCount`: how often the counter has to move in a run.

## Main results

* `CommentTree.update_of_find?`: what an update changes.
* `WatchedTree.generation_run`: the counter after a run.
* `WatchedTree.told?_of_looks`: what a subscriber is told.
* `WatchedTree.no_silent_change`: nobody misses a change.
-/

namespace TrackedComments

/-! ### Updates -/

namespace CommentTree

variable {t : CommentTree} {file : String} {line : UInt32}

/-- An update finds what a look at the tree finds. -/
theorem fst_update (t : CommentTree) (file : String) (line : UInt32) (number : UInt64) :
    (t.update file line number).1 = (t.find? file line).isSome := by
  unfold update
  split <;> simp_all

/-- A comment that is not shown is not updated. -/
theorem update_of_find?_eq_none (h : t.find? file line = none) (number : UInt64) :
    t.update file line number = (false, t) := by
  simp [update, h]

/-- An update changes the number of the first record with the identity. -/
theorem update_of_find? {r : CommentRecord} (h : t.find? file line = some r) (number : UInt64) :
    ∃ before after, t.comments = before ++ r :: after ∧
      (∀ a ∈ before, a.isAt file line = false) ∧
      t.update file line number = (true, { t with
        comments := before ++ { r with issueNumber := some number } :: after
        generation := t.generation + 1 }) := by
  obtain ⟨hat, before, after, hcomments, hbefore⟩ := List.find?_eq_some_iff_append.mp h
  have hbefore : ∀ a ∈ before, a.isAt file line = false := by simpa using hbefore
  refine ⟨before, after, hcomments, hbefore, ?_⟩
  simp only [update, h, Option.isSome_some, if_true, hcomments,
    modifyFirst_append_cons hbefore hat]
  rfl

/-- Whether two trees show the same to everyone. -/
structure ShowsSame (t t' : CommentTree) : Prop where
  find? : ∀ file line, t.find? file line = t'.find? file line
  comments : t.comments = t'.comments
  roots : t.roots = t'.roots
  children : ∀ node, t.children node = t'.children node

theorem ShowsSame.refl (t : CommentTree) : t.ShowsSame t :=
  ⟨fun _ _ => rfl, rfl, rfl, fun _ => rfl⟩

end CommentTree

/-! ### Steps -/

/-- A step of a tree that others watch. -/
inductive ViewStep where
  | setComments (comments : List CommentRecord)
  | refresh
  | update (file : String) (line : UInt32) (number : UInt64)
  /-- One more subscriber joins. -/
  | subscribe
  /-- A subscriber asks whether the tree has changed. -/
  | ask (subscriber : Nat)
  deriving DecidableEq, Inhabited

/-- A tree and its subscribers, in the order in which they have joined. -/
structure WatchedTree where
  tree : CommentTree := {}
  subscribers : List Subscriber := []
  deriving Inhabited

namespace WatchedTree

/-- What a subscriber is told who asks now: whether the tree has changed, and the generation that is
seen from now on. -/
def told? (w : WatchedTree) (subscriber : Nat) : Option (Bool × Subscriber) :=
  w.subscribers[subscriber]?.map w.tree.changedFor

/-- What becomes of a tree and its subscribers in a step. -/
def step (w : WatchedTree) : ViewStep → WatchedTree
  | .setComments comments => { w with tree := w.tree.setComments comments }
  | .refresh => { w with tree := w.tree.refresh }
  | .update file line number => { w with tree := (w.tree.update file line number).2 }
  | .subscribe => { w with subscribers := w.subscribers ++ [w.tree.subscribe] }
  | .ask i => { w with subscribers := w.subscribers.modify i fun s => (w.tree.changedFor s).2 }

/-- What becomes of them in a run. -/
def run (w : WatchedTree) (steps : List ViewStep) : WatchedTree :=
  steps.foldl step w

/-- Whether a step may change what the tree shows: an update does so if it finds a record. -/
def signals (w : WatchedTree) : ViewStep → Bool
  | .setComments _ => true
  | .refresh => true
  | .update file line number => (w.tree.update file line number).1
  | .subscribe => false
  | .ask _ => false

/-- How many steps of a run may change what the tree shows. -/
def signalCount (w : WatchedTree) : List ViewStep → Nat
  | [] => 0
  | s :: rest => (if w.signals s then 1 else 0) + (w.step s).signalCount rest

/-- Whether a subscriber looks at the tree in a step: by joining, as the next one, or by asking. -/
def Looks (w : WatchedTree) (s : ViewStep) (subscriber : Nat) : Prop :=
  s = .subscribe ∧ subscriber = w.subscribers.length ∨
    s = .ask subscriber ∧ subscriber < w.subscribers.length

variable {w : WatchedTree} {s : ViewStep} {steps : List ViewStep} {i : Nat} {seen : Subscriber}

/-- The counter moves by one in a step that may change what the tree shows. -/
theorem generation_step (w : WatchedTree) (s : ViewStep) :
    (w.step s).tree.generation = w.tree.generation + if w.signals s then 1 else 0 := by
  cases s with
  | setComments | refresh | subscribe | ask => rfl
  | update file line number =>
    cases hfind : w.tree.find? file line with
    | none => simp [step, signals, CommentTree.update_of_find?_eq_none hfind]
    | some r =>
      obtain ⟨before, after, -, -, hupdate⟩ := CommentTree.update_of_find? hfind number
      simp [step, signals, hupdate]

/-- No other step touches the tree. -/
theorem tree_step (h : w.signals s = false) : (w.step s).tree = w.tree := by
  cases s with
  | setComments | refresh => simp [signals] at h
  | subscribe | ask => rfl
  | update file line number =>
    rw [signals, CommentTree.fst_update, Option.isSome_eq_false_iff, Option.isNone_iff_eq_none] at h
    rw [step, CommentTree.update_of_find?_eq_none h]

/-- Who looks at the tree sees it as it is. -/
theorem getElem?_subscribers_of_looks (h : w.Looks s i) :
    (w.step s).subscribers[i]? = some ⟨(w.step s).tree.generation⟩ := by
  rcases h with ⟨rfl, rfl⟩ | ⟨rfl, hlt⟩
  · simp [step, CommentTree.subscribe]
  · simp [step, CommentTree.changedFor, hlt]

/-- What a subscriber has seen stays until the subscriber asks. -/
theorem getElem?_subscribers_step (h : w.subscribers[i]? = some seen) (hs : s ≠ .ask i) :
    (w.step s).subscribers[i]? = some seen := by
  cases s with
  | setComments | refresh | update => exact h
  | subscribe =>
    have hlt := (List.getElem?_eq_some_iff.mp h).1
    rw [step, List.getElem?_append_left hlt, h]
  | ask j =>
    have hne : j ≠ i := fun hj => hs (hj ▸ rfl)
    exact (List.getElem?_modify_ne _ _ hne).trans h

/-! ### Runs -/

/-- A run can be continued. -/
theorem run_append (w : WatchedTree) (steps more : List ViewStep) :
    w.run (steps ++ more) = (w.run steps).run more :=
  List.foldl_append

/-- The counter has moved once for each step that may have changed what the tree shows. -/
theorem generation_run (w : WatchedTree) (steps : List ViewStep) :
    (w.run steps).tree.generation = w.tree.generation + w.signalCount steps := by
  induction steps generalizing w with
  | nil => rfl
  | cons s rest ih =>
    have hrest := ih (w.step s)
    rw [generation_step] at hrest
    rw [signalCount, ← Nat.add_assoc]
    exact hrest

/-- There is at most one signal for each step. -/
theorem signalCount_le (w : WatchedTree) (steps : List ViewStep) :
    w.signalCount steps ≤ steps.length := by
  induction steps generalizing w with
  | nil => exact Nat.le_refl 0
  | cons s rest ih =>
    have hrest := ih (w.step s)
    rw [signalCount, List.length_cons]
    split <;> omega

/-- Without a signal the tree is as it was. -/
theorem tree_run (h : w.signalCount steps = 0) : (w.run steps).tree = w.tree := by
  induction steps generalizing w with
  | nil => rfl
  | cons s rest ih =>
    rw [signalCount, Nat.add_eq_zero_iff] at h
    have hs : w.signals s = false := by simpa using h.1
    exact (ih h.2).trans (tree_step hs)

/-- A subscriber that does not ask has seen what it had. -/
theorem getElem?_subscribers_run (h : w.subscribers[i]? = some seen) (hsteps : .ask i ∉ steps) :
    (w.run steps).subscribers[i]? = some seen := by
  induction steps generalizing w with
  | nil => exact h
  | cons s rest ih =>
    have hs : s ≠ .ask i := fun heq => hsteps (heq ▸ List.mem_cons_self)
    exact ih (getElem?_subscribers_step h hs) fun hmem => hsteps (List.mem_cons_of_mem _ hmem)

/-- Who has looked at the tree and asks again later is told whether there has been a step in between
that may have changed what it shows. -/
theorem told?_of_looks (h : w.Looks s i) (hsteps : .ask i ∉ steps) :
    ((w.step s).run steps).told? i =
      some ((w.step s).signalCount steps != 0, ⟨((w.step s).run steps).tree.generation⟩) := by
  have hseen := getElem?_subscribers_run (getElem?_subscribers_of_looks h) hsteps
  rw [told?, hseen, Option.map_some, CommentTree.changedFor, generation_run]
  simp [bne]

/-! ### Changes -/

/-- Nobody misses a change. The counter moves once for each replacement of the records, each refresh
and each update that finds its record, and for nothing else. An update finds its record if a look at
the tree finds it; it changes the number of this record, and nothing else. Who looks at the tree, by
joining or by asking, and asks again later, is told of a change exactly if the counter has moved in
between, in particular if the tree shows something else, and has then seen the counter as it is. -/
theorem no_silent_change (w : WatchedTree) :
    (∀ steps, (w.run steps).tree.generation = w.tree.generation + w.signalCount steps ∧
      w.signalCount steps ≤ steps.length) ∧
    (∀ (t : CommentTree) file line number,
      (t.update file line number).1 = (t.find? file line).isSome ∧
      (t.find? file line = none → (t.update file line number).2 = t) ∧
      ∀ r, t.find? file line = some r → ∃ before after, t.comments = before ++ r :: after ∧
        (∀ a ∈ before, a.isAt file line = false) ∧
        (t.update file line number).2 = { t with
          comments := before ++ { r with issueNumber := some number } :: after
          generation := t.generation + 1 }) ∧
    ∀ before look between i, (w.run before).Looks look i → .ask i ∉ between →
      ∃ changed, (w.run (before ++ look :: between)).told? i =
          some (changed, ⟨(w.run (before ++ look :: between)).tree.generation⟩) ∧
        (changed = true ↔ 0 < (w.run (before ++ [look])).signalCount between) ∧
        (¬ (w.run (before ++ [look])).tree.ShowsSame (w.run (before ++ look :: between)).tree →
          changed = true) := by
  refine ⟨fun steps => ⟨generation_run w steps, signalCount_le w steps⟩,
    fun t file line number => ⟨CommentTree.fst_update t file line number, fun hnone => ?_,
      fun r hr => ?_⟩, fun before look between i hlook hbetween => ?_⟩
  · rw [CommentTree.update_of_find?_eq_none hnone]
  · obtain ⟨before, after, hcomments, hbefore, hupdate⟩ := CommentTree.update_of_find? hr number
    exact ⟨before, after, hcomments, hbefore, congrArg Prod.snd hupdate⟩
  · have hlooked : w.run (before ++ [look]) = (w.run before).step look := run_append w before [look]
    have hlater : w.run (before ++ look :: between) = ((w.run before).step look).run between :=
      run_append w before (look :: between)
    rw [hlooked, hlater]
    refine ⟨_, told?_of_looks hlook hbetween, by simp [Nat.pos_iff_ne_zero], fun hdiffer => ?_⟩
    -- without a signal the tree would be as it was
    rw [bne_iff_ne]
    intro hzero
    exact hdiffer (tree_run hzero ▸ .refl _)

/-- Two subscribers join a tree with one record. -/
def joining : List ViewStep :=
  [.setComments [⟨"a.ts", 1, "// ERROR: x", "x", .empty, none⟩], .subscribe, .subscribe]

/-- The other one asks, and one of two updates finds its record. -/
def updating : List ViewStep :=
  [.ask 1, .update "a.ts" 2 7, .update "a.ts" 1 42]

/-- An update between two questions of a subscriber is told. -/
theorem no_silent_change_updating :
    (run {} joining).Looks (.ask 0) 0 ∧ .ask 0 ∉ updating ∧
      ¬ (run {} (joining ++ [.ask 0])).tree.ShowsSame
        (run {} (joining ++ .ask 0 :: updating)).tree ∧
      (run {} (joining ++ .ask 0 :: updating)).told? 0 = some (true, ⟨2⟩) := by
  have hlook : (run {} joining).Looks (.ask 0) 0 := .inr ⟨rfl, by decide⟩
  have hdiffer : ¬ (run {} (joining ++ [.ask 0])).tree.ShowsSame
      (run {} (joining ++ .ask 0 :: updating)).tree := fun h => absurd h.comments (by decide)
  obtain ⟨hcount, -, htold⟩ := no_silent_change {}
  obtain ⟨changed, hanswer, -, hchanged⟩ := htold joining (.ask 0) updating 0 hlook (by decide)
  refine ⟨hlook, by decide, hdiffer, ?_⟩
  rw [hanswer, hchanged hdiffer, (hcount _).1]
  rfl

end WatchedTree

end TrackedComments

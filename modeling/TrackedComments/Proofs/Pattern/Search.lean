import Mathlib.Tactic.Common
import TrackedComments.Pattern.Search

/-!
# What a search finds

A search does not try a pair of address and position twice, and yet it finds what a search would
find that tries every way through the program again and again. A pair that has been left behind
fails whenever it comes up, since what a thread can still achieve does not depend on its slots. And
a pair on the way to the current thread does not come up again if every way comes to an end: the
depth of the tree of all ways is smaller at each step.

## Main results

* `Program.finds_of_yieldsWithin`: a search finds what its threads yield.
* `Program.search_eq_findSome?`: the leftmost position whose thread yields something decides.
-/

namespace TrackedComments.Pattern

/-- Where a thread stands. -/
def Thread.place (t : Thread) : Nat × Nat := (t.address, t.position)

namespace Visited

/-- A mark makes its own pair old and no other. -/
theorem isFresh_mark_iff {v : Visited} {address position address' position' : Nat}
    (hposition : position < v.width) (hposition' : position' < v.width) :
    (v.mark address position).isFresh address' position' = true ↔
      v.isFresh address' position' = true ∧ (address', position') ≠ (address, position) := by
  have hindex : v.index address position = v.index address' position' ↔
      (address', position') = (address, position) := by
    constructor
    · intro h
      have hmod := congrArg (· % v.width) h
      have hdiv := congrArg (· / v.width) h
      have hwidth : 0 < v.width := by omega
      simp only [index, Nat.mul_add_mod_self_right, Nat.mod_eq_of_lt hposition,
        Nat.mod_eq_of_lt hposition'] at hmod
      simp only [index, Nat.add_comm _ position, Nat.add_comm _ position',
        Nat.add_mul_div_right _ _ hwidth, Nat.div_eq_of_lt hposition,
        Nat.div_eq_of_lt hposition', Nat.zero_add] at hdiv
      exact Prod.ext hdiv.symm hmod.symm
    · intro h
      obtain ⟨rfl, rfl⟩ := Prod.mk.inj h
      rfl
  have hcell : (v.mark address position).isFresh address' position' =
      ((v.cells.setIfInBounds (v.index address position) true)[v.index address' position']? ==
        some false) := rfl
  rw [hcell, Array.getElem?_setIfInBounds]
  by_cases h : v.index address position = v.index address' position'
  · rw [if_pos h]
    split <;> simp [hindex.mp h]
  · rw [if_neg h, ne_eq, ← hindex]
    simp [h, isFresh]

end Visited

namespace Program

variable {p : Program} {text : Array Char} {t t' : Thread} {threads threads' rest : List Thread}
  {seen : Visited} {first result result' : Option Slots} {depth depth' : Nat}

/-! ### Steps -/

/-- Whether the program has matched does not depend on the slots of a thread. -/
theorem step_eq_accept_of_place_eq (h : p.step text t = .accept) (hplace : t'.place = t.place) :
    p.step text t' = .accept := by
  obtain ⟨haddress, -⟩ := Prod.mk.inj hplace
  unfold step at h ⊢
  rw [haddress]
  cases hcode : p.code[t.address]? with
  | none => simp [hcode] at h
  | some instruction =>
    cases instruction with
    | accept => rfl
    | char s next => cases hc : text[t.position]? <;> simp [hcode, hc] at h
    | assert | split | save | jump => simp [hcode] at h

/-- Where a thread goes on does not depend on its slots. -/
theorem exists_step_of_place_eq (h : p.step text t = .next threads) (hplace : t'.place = t.place) :
    ∃ threads', p.step text t' = .next threads' ∧
      threads'.map Thread.place = threads.map Thread.place := by
  obtain ⟨haddress, hposition⟩ := Prod.mk.inj hplace
  unfold step at h ⊢
  rw [haddress, hposition]
  cases hcode : p.code[t.address]? with
  | none =>
    obtain rfl : [] = threads := by simpa [hcode] using h
    exact ⟨[], rfl, rfl⟩
  | some instruction =>
    cases instruction with
    | char s next =>
      cases hc : text[t.position]? with
      | none =>
        obtain rfl : [] = threads := by simpa [hcode, hc] using h
        exact ⟨[], rfl, rfl⟩
      | some c =>
        simp only [hcode, hc, Step.next.injEq] at h
        subst h
        exact ⟨_, rfl, by simp only [apply_ite (List.map Thread.place)]; rfl⟩
    | assert a next =>
      simp only [hcode, Step.next.injEq] at h
      subst h
      exact ⟨_, rfl, by simp only [apply_ite (List.map Thread.place)]; rfl⟩
    | accept => simp [hcode] at h
    | split first second | save slot next | jump next =>
      simp only [hcode, Step.next.injEq] at h
      subst h
      exact ⟨_, rfl, by simp [Thread.place]⟩

/-- No thread leaves the text. -/
theorem position_le_of_step (h : p.step text t = .next threads)
    (hposition : t.position ≤ text.size) : ∀ u ∈ threads, u.position ≤ text.size := by
  intro u hu
  unfold step at h
  split at h
  · obtain rfl := Step.next.inj h
    simp at hu
  · split at h
    · rename_i c hc
      obtain ⟨hlt, -⟩ := Array.getElem?_eq_some_iff.mp hc
      obtain rfl := Step.next.inj h
      obtain ⟨-, hu⟩ := List.mem_ite_nil_right.mp hu
      obtain rfl := List.mem_singleton.mp hu
      exact hlt
    · obtain rfl := Step.next.inj h
      simp at hu
  · obtain rfl := Step.next.inj h
    obtain ⟨-, hu⟩ := List.mem_ite_nil_right.mp hu
    obtain rfl := List.mem_singleton.mp hu
    exact hposition
  · obtain rfl := Step.next.inj h
    rcases List.mem_cons.mp hu with rfl | hu
    · exact hposition
    · obtain rfl := List.mem_singleton.mp hu
      exact hposition
  · obtain rfl := Step.next.inj h
    obtain rfl := List.mem_singleton.mp hu
    exact hposition
  · obtain rfl := Step.next.inj h
    obtain rfl := List.mem_singleton.mp hu
    exact hposition
  · simp at h

/-! ### What threads yield -/

/-- What the threads of a list yield if all ways are tried in order, each of them to its end. The
tree of these ways has a depth at most. -/
inductive YieldsWithin (p : Program) (text : Array Char) :
    Nat → List Thread → Option Slots → Prop where
  | nil (depth : Nat) : YieldsWithin p text depth [] none
  | accept {depth : Nat} {t : Thread} {rest : List Thread} {result : Option Slots} :
      p.step text t = .accept → YieldsWithin p text (depth + 1) rest result →
      YieldsWithin p text (depth + 1) (t :: rest) (some t.slots)
  | next {depth : Nat} {t : Thread} {threads rest : List Thread} {first result : Option Slots} :
      p.step text t = .next threads → YieldsWithin p text depth threads first →
      YieldsWithin p text (depth + 1) rest result →
      YieldsWithin p text (depth + 1) (t :: rest) (first.or result)

/-- What one thread yields, whatever the depth. -/
def Yields (p : Program) (text : Array Char) (t : Thread) (result : Option Slots) : Prop :=
  ∃ depth, p.YieldsWithin text depth [t] result

namespace YieldsWithin

/-- Ways that are less deep than a bound are less deep than a greater one. -/
theorem mono (h : p.YieldsWithin text depth threads result) (hle : depth ≤ depth') :
    p.YieldsWithin text depth' threads result := by
  induction h generalizing depth' with
  | nil => exact .nil _
  | accept hstep _ ih =>
    obtain ⟨depth', rfl⟩ : ∃ n, depth' = n + 1 := ⟨depth' - 1, by omega⟩
    exact .accept hstep (ih hle)
  | next hstep _ _ ihthreads ihrest =>
    obtain ⟨depth', rfl⟩ : ∃ n, depth' = n + 1 := ⟨depth' - 1, by omega⟩
    exact .next hstep (ihthreads (by omega)) (ihrest hle)

/-- Threads yield one result, whatever the bound. -/
theorem unique (h : p.YieldsWithin text depth threads result)
    (h' : p.YieldsWithin text depth' threads result') : result = result' := by
  induction h generalizing depth' result' with
  | nil => cases h'; rfl
  | accept hstep _ _ =>
    cases h' with
    | accept _ _ => rfl
    | next hstep' _ _ => simp [hstep] at hstep'
  | next hstep _ _ ihthreads ihrest =>
    cases h' with
    | accept hstep' _ => simp [hstep] at hstep'
    | next hstep' hthreads' hrest' =>
      obtain rfl := Step.next.inj (hstep.symm.trans hstep')
      rw [ihthreads hthreads', ihrest hrest']

/-- What comes of threads does not depend on their slots, as far as it matters whether they yield
nothing. -/
theorem exists_of_place_eq (h : p.YieldsWithin text depth threads result)
    (hplaces : threads'.map Thread.place = threads.map Thread.place) :
    ∃ result', p.YieldsWithin text depth threads' result' ∧ (result = none → result' = none) := by
  induction h generalizing threads' with
  | nil depth =>
    obtain rfl := List.map_eq_nil_iff.mp hplaces
    exact ⟨none, .nil depth, id⟩
  | accept hstep _ ihrest =>
    obtain ⟨t', rest', rfl, hplace, hrests⟩ := List.map_eq_cons_iff.mp hplaces
    obtain ⟨_, hrest', -⟩ := ihrest hrests
    exact ⟨_, .accept (step_eq_accept_of_place_eq hstep hplace) hrest', by simp⟩
  | next hstep _ _ ihthreads ihrest =>
    obtain ⟨t', rest', rfl, hplace, hrests⟩ := List.map_eq_cons_iff.mp hplaces
    obtain ⟨_, hstep', hnexts⟩ := exists_step_of_place_eq hstep hplace
    obtain ⟨first', hthreads', hfirst⟩ := ihthreads hnexts
    obtain ⟨result', hrest', hresult⟩ := ihrest hrests
    refine ⟨_, .next hstep' hthreads' hrest', fun hnone => ?_⟩
    obtain ⟨hfirstNone, hresultNone⟩ := Option.or_eq_none_iff.mp hnone
    rw [hfirst hfirstNone, hresult hresultNone]
    rfl

/-- A thread that goes on yields what the threads yield that it goes on as. -/
theorem single_of_next (h : p.step text t = .next threads)
    (hthreads : p.YieldsWithin text depth threads result) :
    p.YieldsWithin text (depth + 1) [t] result := by
  have hnext := YieldsWithin.next h hthreads (.nil (depth + 1))
  rwa [Option.or_none] at hnext

/-- What a list of threads yields is made of what its first one yields and what the others do. -/
theorem exists_of_cons (h : p.YieldsWithin text (depth + 1) (t :: rest) result) :
    ∃ first result', p.YieldsWithin text (depth + 1) [t] first ∧
      p.YieldsWithin text (depth + 1) rest result' ∧ result = first.or result' := by
  cases h with
  | accept hstep hrest => exact ⟨_, _, .accept hstep (.nil _), hrest, by simp⟩
  | next hstep hthreads hrest => exact ⟨_, _, .single_of_next hstep hthreads, hrest, rfl⟩

/-- A thread in front of others yields its own result, or else theirs. -/
theorem cons (h : p.YieldsWithin text depth [t] first)
    (hrest : p.YieldsWithin text depth rest result) :
    p.YieldsWithin text depth (t :: rest) (first.or result) := by
  cases h with
  | accept hstep _ => exact .accept hstep hrest
  | next hstep hthreads hnil =>
    cases hnil
    rw [Option.or_none]
    exact .next hstep hthreads hrest

end YieldsWithin

/-- A thread at the end of the program yields its slots. -/
theorem yields_of_accept (h : p.step text t = .accept) : p.Yields text t (some t.slots) :=
  ⟨1, .accept h (.nil 1)⟩

/-- A thread that cannot go on yields nothing. -/
theorem yields_of_fail (h : p.step text t = .next []) : p.Yields text t none :=
  ⟨1, .single_of_next h (.nil 0)⟩

/-- A thread that goes on as a single one yields what that one does. -/
theorem yields_of_next (h : p.step text t = .next [t']) (hnext : p.Yields text t' result) :
    p.Yields text t result := by
  obtain ⟨depth, hnext⟩ := hnext
  exact ⟨depth + 1, .single_of_next h hnext⟩

/-- A thread that goes on as two yields what the first of them does, or else the second. -/
theorem yields_of_split {t'' : Thread} (h : p.step text t = .next [t', t''])
    (hfirst : p.Yields text t' first) (hsecond : p.Yields text t'' result) :
    p.Yields text t (first.or result) := by
  obtain ⟨depth, hfirst⟩ := hfirst
  obtain ⟨depth', hsecond⟩ := hsecond
  exact ⟨max depth depth' + 1, .single_of_next h
    ((hfirst.mono (Nat.le_max_left _ _)).cons (hsecond.mono (Nat.le_max_right _ _)))⟩

/-- Threads that each yield something yield the first of it. -/
theorem exists_yieldsWithin {yielded : Thread → Option Slots}
    (h : ∀ t ∈ threads, p.Yields text t (yielded t)) :
    ∃ depth, p.YieldsWithin text depth threads (threads.findSome? yielded) := by
  induction threads with
  | nil => exact ⟨0, .nil 0⟩
  | cons t threads ih =>
    obtain ⟨depth, hfirst⟩ := h t List.mem_cons_self
    obtain ⟨depth', hrest⟩ := ih fun u hu => h u (List.mem_cons_of_mem _ hu)
    have hcons := (hfirst.mono (Nat.le_max_left _ depth')).cons
      (hrest.mono (Nat.le_max_right depth _))
    refine ⟨max depth depth', ?_⟩
    rw [List.findSome?_cons]
    cases hyielded : yielded t with
    | none => rwa [hyielded, Option.none_or] at hcons
    | some slots => rwa [hyielded, Option.some_or] at hcons

/-! ### What a search makes of it -/

/-- Whether all pairs that have been tried yield nothing, as far as their ways are no deeper. -/
structure InVain (p : Program) (text : Array Char) (depth : Nat) (seen : Visited) : Prop where
  width : seen.width = text.size + 1
  yields : ∀ t result, t.position ≤ text.size → seen.isFresh t.address t.position = false →
    p.YieldsWithin text depth [t] result → result = none

/-- What a search finds among the threads on top of its stack, whatever lies below them. If it finds
nothing, it goes on below, and what it has tried in between was in vain. -/
inductive Finds (p : Program) (text : Array Char) (seen : Visited) (threads : List Thread) :
    Option Slots → Prop where
  | found {slots : Slots} : (∀ rest, p.explore text (threads ++ rest) seen = some slots) →
      Finds p text seen threads (some slots)
  | missed {seen' : Visited} :
      (∀ depth, p.InVain text depth seen → p.InVain text depth seen') →
      (∀ rest, p.explore text (threads ++ rest) seen = p.explore text rest seen') →
      Finds p text seen threads none

/-- What is in vain for deep ways is in vain for those that are less deep. -/
theorem InVain.mono (h : p.InVain text depth seen) (hle : depth' ≤ depth) :
    p.InVain text depth' seen :=
  ⟨h.width, fun t result hposition hfresh ht => h.yields t result hposition hfresh (ht.mono hle)⟩

/-- A thread that is about to be tried may be marked if what it yields is known to be nothing. -/
theorem InVain.mark (h : p.InVain text depth seen) (hposition : t.position ≤ text.size)
    (hnone : ∀ u result, u.place = t.place → p.YieldsWithin text depth [u] result →
      result = none) : p.InVain text depth (seen.mark t.address t.position) := by
  refine ⟨h.width, fun u result hu hfresh hyields => ?_⟩
  have hwidth := h.width
  have hmark : (seen.mark t.address t.position).isFresh u.address u.position = true ↔
      seen.isFresh u.address u.position = true ∧ u.place ≠ t.place :=
    Visited.isFresh_mark_iff (by omega) (by omega)
  by_cases hold : seen.isFresh u.address u.position = true
  · refine hnone u result ?_ hyields
    by_contra hne
    rw [hmark.mpr ⟨hold, hne⟩] at hfresh
    simp at hfresh
  · exact h.yields u result hu (by simpa using hold) hyields

theorem finds_nil (seen : Visited) : p.Finds text seen [] none :=
  .missed (fun _ h => h) fun _ => rfl

/-- A search tries a thread and then those below it, with all that the first has tried in vain. -/
theorem Finds.cons (h : p.Finds text seen [t] first)
    (hrest : ∀ seen', (∀ depth, p.InVain text depth seen → p.InVain text depth seen') →
      p.Finds text seen' rest result) : p.Finds text seen (t :: rest) (first.or result) := by
  cases h with
  | found hfound => exact .found fun more => hfound (rest ++ more)
  | missed hvain hmissed =>
    rw [Option.none_or]
    cases hrest _ hvain with
    | found hfound => exact .found fun more => (hmissed (rest ++ more)).trans (hfound more)
    | missed hvain' hmissed' =>
      exact .missed (fun depth hseen => hvain' depth (hvain depth hseen))
        fun more => (hmissed (rest ++ more)).trans (hmissed' more)

/-- A thread that stands where another has stood is passed over. -/
theorem finds_of_not_fresh (h : seen.isFresh t.address t.position = false) :
    p.Finds text seen [t] none := by
  refine .missed (fun _ hvain => hvain) fun rest => ?_
  rw [List.singleton_append, explore, dif_neg (by simp [h])]

/-- A search ends with the slots of a thread at the end of the program. -/
theorem finds_of_accept (hfresh : seen.isFresh t.address t.position = true)
    (h : p.step text t = .accept) : p.Finds text seen [t] (some t.slots) := by
  refine .found fun rest => ?_
  rw [List.singleton_append, explore, dif_pos hfresh, h]

/-- A search goes on with the threads as which a thread goes on, and marks where it stood. -/
theorem finds_of_next (hfresh : seen.isFresh t.address t.position = true)
    (h : p.step text t = .next threads) (hposition : t.position ≤ text.size)
    (hthreads : p.Finds text (seen.mark t.address t.position) threads result)
    (hyields : p.YieldsWithin text depth [t] result) : p.Finds text seen [t] result := by
  have hexplore (rest : List Thread) : p.explore text ([t] ++ rest) seen =
      p.explore text (threads ++ rest) (seen.mark t.address t.position) := by
    rw [List.singleton_append, explore, dif_pos hfresh, h]
  cases hthreads with
  | found hfound => exact .found fun rest => (hexplore rest).trans (hfound rest)
  | missed hvain hmissed =>
    refine .missed (fun depth' hseen => hvain depth' (hseen.mark hposition ?_))
      fun rest => (hexplore rest).trans (hmissed rest)
    intro u result' hplace hu
    have hplaces : [u].map Thread.place = [t].map Thread.place := by simp [hplace]
    obtain ⟨result'', hu', hnone⟩ := hyields.exists_of_place_eq hplaces
    rw [hu.unique hu', hnone rfl]

/-- A search finds what the threads on top of its stack yield. The induction is on the depth, since
a thread that has been marked must not come up again below itself: if it did, its ways would be less
deep than they are. -/
theorem finds_of_yieldsWithin (h : p.YieldsWithin text depth threads result)
    (hposition : ∀ t ∈ threads, t.position ≤ text.size) (hvain : p.InVain text depth seen) :
    p.Finds text seen threads result := by
  induction depth generalizing threads result seen with
  | zero =>
    cases h
    exact finds_nil seen
  | succ depth ih =>
    induction threads generalizing result seen with
    | nil =>
      cases h
      exact finds_nil seen
    | cons t rest ihrest =>
      have ht := hposition t List.mem_cons_self
      have hrests := fun u hu => hposition u (List.mem_cons_of_mem t hu)
      obtain ⟨first, result', hsingle, hrest, rfl⟩ := h.exists_of_cons
      refine Finds.cons ?_ fun seen' hseen => ihrest hrest hrests (hseen _ hvain)
      have hless := hvain.mono (Nat.le_succ depth)
      by_cases hfresh : seen.isFresh t.address t.position = true
      · -- if the ways from here are shallower than they need be, the outer induction applies
        by_cases hshallow : ∃ u result', u.place = t.place ∧ p.YieldsWithin text depth [u] result'
        · obtain ⟨u, _, hplace, hu⟩ := hshallow
          have hplaces : [t].map Thread.place = [u].map Thread.place := by simp [hplace]
          obtain ⟨_, hshallow, -⟩ := hu.exists_of_place_eq hplaces
          rw [hsingle.unique hshallow]
          exact ih hshallow (by simpa using ht) hless
        · cases hsingle with
          | accept hstep _ => exact finds_of_accept hfresh hstep
          | next hstep hthreads hnil =>
            cases hnil
            rw [Option.or_none]
            -- otherwise no way that is shallow enough leads back to this place
            have hmark := hless.mark ht fun u result' hplace hu =>
              absurd ⟨u, result', hplace, hu⟩ hshallow
            exact finds_of_next hfresh hstep ht
              (ih hthreads (position_le_of_step hstep ht) hmark) (.single_of_next hstep hthreads)
      · have hstale : seen.isFresh t.address t.position = false := by simpa using hfresh
        obtain rfl := hvain.yields t first ht hstale hsingle
        exact finds_of_not_fresh hstale

/-! ### Searches -/

/-- Where nothing has been tried, nothing is left out but addresses without an instruction. -/
theorem inVain_empty (depth : Nat) :
    p.InVain text depth (.empty p.code.size (text.size + 1)) := by
  refine ⟨rfl, fun t result hposition hfresh hyields => ?_⟩
  have haddress : p.code.size ≤ t.address := by
    by_contra hlt
    have hle : (t.address + 1) * (text.size + 1) ≤ p.code.size * (text.size + 1) :=
      Nat.mul_le_mul_right _ (by omega)
    have hindex : t.address * (text.size + 1) + t.position < p.code.size * (text.size + 1) := by
      rw [Nat.add_mul, Nat.one_mul] at hle
      omega
    simp [Visited.isFresh, Visited.empty, Visited.index, hindex] at hfresh
  have hstep : p.step text t = .next [] := by
    rw [step, Array.getElem?_eq_none haddress]
  obtain ⟨_, hfail⟩ := yields_of_fail hstep
  exact hyields.unique hfail

/-- The leftmost position whose thread yields something decides what a search finds. -/
theorem search_eq_findSome? {yielded : Nat → Option Slots}
    (h : ∀ position ≤ text.size, p.Yields text (p.thread position) (yielded position)) :
    p.search text = (List.range (text.size + 1)).findSome? yielded := by
  have hthreads : ∀ t ∈ (List.range (text.size + 1)).map p.thread, t.position ≤ text.size ∧
      p.Yields text t (yielded t.position) := by
    intro t ht
    obtain ⟨position, hmem, rfl⟩ := List.mem_map.mp ht
    have hposition : position ≤ text.size := Nat.le_of_lt_succ (List.mem_range.mp hmem)
    exact ⟨hposition, h position hposition⟩
  obtain ⟨depth, hyields⟩ : ∃ depth, p.YieldsWithin text depth
      ((List.range (text.size + 1)).map p.thread)
      (((List.range (text.size + 1)).map p.thread).findSome? fun t => yielded t.position) :=
    exists_yieldsWithin fun t ht => (hthreads t ht).2
  have hfinds := finds_of_yieldsWithin hyields (fun t ht => (hthreads t ht).1) (inVain_empty depth)
  rw [List.findSome?_map] at hfinds
  have hsearch : p.search text = p.explore text ((List.range (text.size + 1)).map p.thread ++ [])
      (.empty p.code.size (text.size + 1)) := by
    rw [List.append_nil, search]
  have hyielded : (fun t : Thread => yielded t.position) ∘ p.thread = yielded := rfl
  rw [hyielded] at hfinds
  rw [hsearch]
  generalize hresult : (List.range (text.size + 1)).findSome? yielded = result at hfinds
  cases hfinds with
  | found hfound => exact hfound []
  | missed _ hmissed => rw [hmissed [], explore]

end Program

end TrackedComments.Pattern

import Mathlib.Data.List.Perm.Basic

/-!
# Stable sorts

A stable sort by a key puts items in ascending order of their keys and leaves those with the same
key in the order that they had. Grouping items by their keys loses none of them and repeats none.

## Main results

* `sortsStably_mergeSort`: what a merge sort by a key gives.
* `SortsStably.perm`: no item is lost or repeated.
* `flatMap_filter_perm`: the groups of the keys put together.
-/

namespace TrackedComments

variable {α κ : Type}

/-- Whether a list holds the items of another one in ascending order of a key, those with the same
key in the order that they had. -/
structure SortsStably [LE κ] [DecidableEq κ] (key : α → κ) (sorted items : List α) : Prop where
  ascending : sorted.Pairwise fun a b => key a ≤ key b
  keeps : ∀ k, sorted.filter (key · = k) = items.filter (key · = k)

/-! ### Merge sorts -/

section

variable [LE κ] [DecidableLE κ] [Std.IsLinearOrder κ]

/-- The order of the keys is transitive. -/
theorem decide_le_trans (key : α → κ) (a b c : α) (h : decide (key a ≤ key b))
    (h' : decide (key b ≤ key c)) : decide (key a ≤ key c) :=
  decide_eq_true (Std.le_trans (of_decide_eq_true h) (of_decide_eq_true h'))

/-- The order of the keys is total. -/
theorem decide_le_total (key : α → κ) (a b : α) :
    decide (key a ≤ key b) || decide (key b ≤ key a) := by
  simpa using Std.le_total

/-- A merge sort by a key leaves the keys in ascending order. -/
theorem pairwise_mergeSort_key (key : α → κ) (items : List α) :
    (items.mergeSort fun a b => key a ≤ key b).Pairwise fun a b => key a ≤ key b := by
  simpa using List.pairwise_mergeSort (decide_le_trans key) (decide_le_total key) items

/-- What a merge sort by a key gives. -/
theorem sortsStably_mergeSort [DecidableEq κ] (key : α → κ) (items : List α) :
    SortsStably key (items.mergeSort fun a b => key a ≤ key b) items := by
  refine ⟨pairwise_mergeSort_key key items, fun k => ?_⟩
  -- the items with one key ascend already, so the sort keeps them in their order
  have hascending : (items.filter (key · = k)).Pairwise fun a b => decide (key a ≤ key b) := by
    refine List.pairwise_of_forall_mem_list fun a ha b hb => ?_
    have ha : key a = k := by simpa using List.of_mem_filter ha
    have hb : key b = k := by simpa using List.of_mem_filter hb
    simp [ha, hb]
  have hkeep := (List.sublist_mergeSort (decide_le_trans key) (decide_le_total key) hascending
    List.filter_sublist).filter (key · = k)
  rw [List.filter_filter] at hkeep
  simp only [Bool.and_self] at hkeep
  exact (hkeep.eq_of_length ((List.mergeSort_perm items _).filter _).length_eq.symm).symm

end

/-- No item is lost or repeated. -/
theorem SortsStably.perm [LE κ] [DecidableEq κ] [DecidableEq α] {key : α → κ}
    {sorted items : List α} (h : SortsStably key sorted items) : sorted.Perm items := by
  refine List.perm_iff_count.mpr fun a => ?_
  have hcount (l : List α) : l.count a = (l.filter (key · = key a)).count a := by
    rw [List.count_filter (by simp)]
  rw [hcount, h.keeps, ← hcount]

/-! ### Groups -/

/-- Without its repetitions a list repeats nothing. -/
theorem nodup_eraseDups [DecidableEq κ] : (keys : List κ) → keys.eraseDups.Nodup
  | [] => List.nodup_nil
  | k :: keys => by
    rw [List.eraseDups_cons, List.nodup_cons]
    exact ⟨by simp, nodup_eraseDups _⟩
termination_by keys => keys.length
decreasing_by exact Nat.lt_succ_of_le (List.length_filter_le _ _)

/-- The groups of all keys put together are the items. -/
theorem flatMap_filter_perm [DecidableEq κ] {keys : List κ} (hkeys : keys.Nodup) {key : α → κ}
    {items : List α} (hall : ∀ a ∈ items, key a ∈ keys) :
    (keys.flatMap fun k => items.filter (key · == k)).Perm items := by
  induction keys generalizing items with
  | nil =>
    rw [List.eq_nil_iff_forall_not_mem.mpr fun a ha => List.not_mem_nil (hall a ha)]
    exact .refl _
  | cons k keys ih =>
    obtain ⟨hk, hkeys⟩ := List.nodup_cons.mp hkeys
    have hothers : keys.flatMap (fun k' => items.filter (key · == k')) =
        keys.flatMap fun k' => (items.filter (!key · == k)).filter (key · == k') := by
      refine List.flatMap_congr fun k' hk' => ?_
      rw [List.filter_filter]
      refine List.filter_congr fun a _ => ?_
      have hne : k' ≠ k := fun heq => hk (heq ▸ hk')
      grind
    have hrest : ∀ a ∈ items.filter (!key · == k), key a ∈ keys := by
      intro a ha
      obtain ⟨ha, hne⟩ := List.mem_filter.mp ha
      exact (List.mem_cons.mp (hall a ha)).resolve_left (by simpa using hne)
    rw [List.flatMap_cons, hothers]
    exact ((ih hkeys hrest).append_left _).trans (List.filter_append_perm _ items)

end TrackedComments

import TrackedComments.Proofs.Pattern.FirstMatch

/-!
# Words and runs

What comes of a text whose rest is known: a word is skipped or stops the match, a greedy repetition
of a set tries all lengths of a run from its end back to its start, a lazy one from the start on.

## Main results

* `Regex.first_word`, `Regex.first_word_eq_none`: words.
* `Regex.first_star_run`: a greedy repetition.
* `Regex.first_plus_run`: a lazy repetition.
-/

namespace TrackedComments.Pattern.Regex

/-- An expression after some characters. -/
def word (chars : List Char) (r : Regex) : Regex :=
  chars.foldr (fun c r => .seq (.set (.singleton c)) r) r

variable {text rest : List Char} {position : Nat} {k : Continuation} {slots : Slots}

/-- A position before a character lies inside the text. -/
theorem lt_length_of_drop {c : Char} (h : text.drop position = c :: rest) :
    position < text.length := by
  by_contra hle
  rw [List.drop_eq_nil_of_le (by omega)] at h
  simp at h

/-- The text after a character is the rest. -/
theorem drop_succ_of_drop {c : Char} (h : text.drop position = c :: rest) :
    text.drop (position + 1) = rest := by
  rw [← List.tail_drop, h, List.tail_cons]

/-- The text after some characters is the rest. -/
theorem drop_add_of_drop {before : List Char} (h : text.drop position = before ++ rest) :
    text.drop (position + before.length) = rest := by
  rw [← List.drop_drop, h, List.drop_left]

/-! ### Single characters -/

/-- A set takes the next character if it holds it. -/
theorem first_set_of_drop {c : Char} (h : text.drop position = c :: rest) (s : CharSet) :
    (set s).first text.toArray k position slots =
      if s.contains c then k (position + 1) slots else none := by
  have hc : text[position]? = some c := by rw [← List.head?_drop, h, List.head?_cons]
  rw [first, List.getElem?_toArray, hc]

/-- A set finds nothing at the end of the text. -/
theorem first_set_of_drop_nil (h : text.drop position = []) (s : CharSet) :
    (set s).first text.toArray k position slots = none := by
  have hc : text[position]? = none := by rw [← List.head?_drop, h, List.head?_nil]
  rw [first, List.getElem?_toArray, hc]

/-- A set finds nothing where it does not hold the next character. -/
theorem first_set_of_head {s : CharSet}
    (h : ∀ c ∈ (text.drop position).head?, s.contains c = false) :
    (set s).first text.toArray k position slots = none := by
  cases hrest : text.drop position with
  | nil => exact first_set_of_drop_nil hrest s
  | cons c rest => rw [first_set_of_drop hrest, h c (by simp [hrest]), if_neg Bool.false_ne_true]

/-! ### Words -/

/-- After some characters the expression goes on where they end. -/
theorem first_word {chars : List Char} {r : Regex} (h : text.drop position = chars ++ rest) :
    (word chars r).first text.toArray k position slots =
      r.first text.toArray k (position + chars.length) slots := by
  induction chars generalizing position with
  | nil => rfl
  | cons c chars ih =>
    have hnext := ih (drop_succ_of_drop h)
    have hlength : position + (c :: chars).length = position + 1 + chars.length := by
      rw [List.length_cons]
      omega
    rw [word, List.foldr_cons, ← word, first, first_set_of_drop h,
      if_pos ((CharSet.contains_singleton c c).mpr rfl), hnext, hlength]

/-- Nothing comes of a text that does not begin with the characters. -/
theorem first_word_eq_none {chars : List Char} {r : Regex} (h : ¬ chars <+: text.drop position) :
    (word chars r).first text.toArray k position slots = none := by
  induction chars generalizing position with
  | nil => exact absurd List.nil_prefix h
  | cons c chars ih =>
    rw [word, List.foldr_cons, ← word, first]
    cases hrest : text.drop position with
    | nil => exact first_set_of_drop_nil hrest _
    | cons d rest =>
      rw [first_set_of_drop hrest]
      split
      · rename_i hcontains
        obtain rfl := (CharSet.contains_singleton c d).mp hcontains
        refine ih fun hprefix => h ?_
        rw [hrest]
        exact (List.prefix_cons_inj d).mpr (drop_succ_of_drop hrest ▸ hprefix)
      · rfl

/-! ### Runs -/

variable {s : CharSet} {run : List Char}

/-- A greedy repetition tries all lengths of a run from its end back to its start. -/
theorem first_star_run (h : text.drop position = run ++ rest) (hrun : ∀ c ∈ run, s.contains c)
    (hrest : ∀ c ∈ rest.head?, s.contains c = false) :
    (star true (set s)).first text.toArray k position slots =
      (k (position + run.length) slots).or
        ((List.range run.length).reverse.findSome? fun d => k (position + d) slots) := by
  induction run generalizing position with
  | nil =>
    rw [first, first_set_of_head (by rwa [h]), prefer, if_pos rfl]
    simp
  | cons c run ih =>
    have hlt := lt_length_of_drop h
    have hnext := ih (drop_succ_of_drop h) fun d hd => hrun d (List.mem_cons_of_mem c hd)
    have hshift : position + 1 + run.length = position + (run.length + 1) := by omega
    have hshifts : (fun d => k (position + 1 + d) slots) =
        (fun d => k (position + d) slots) ∘ Nat.succ := by
      funext d
      rw [Function.comp_apply, Nat.succ_eq_add_one, Nat.add_assoc, Nat.add_comm 1 d]
    rw [first, first_set_of_drop h, if_pos (hrun c List.mem_cons_self), dif_pos ⟨by omega, hlt⟩,
      hnext, prefer, if_pos rfl, hshift, hshifts, Option.or_assoc, List.length_cons,
      List.range_succ_eq_map, List.reverse_cons, List.findSome?_append, ← List.map_reverse,
      List.findSome?_map]
    simp

/-- A lazy repetition tries all lengths of a run but none from its start on. -/
theorem first_plus_run (h : text.drop position = run ++ rest) (hrun : ∀ c ∈ run, s.contains c)
    (hrest : ∀ c ∈ rest.head?, s.contains c = false) :
    (plus false (set s)).first text.toArray k position slots =
      (List.range run.length).findSome? fun d => k (position + 1 + d) slots := by
  induction run generalizing position with
  | nil =>
    rw [first, first_set_of_head (by rwa [h])]
    rfl
  | cons c run ih =>
    have hlt := lt_length_of_drop h
    have hnext := ih (drop_succ_of_drop h) fun d hd => hrun d (List.mem_cons_of_mem c hd)
    have hshifts : (fun d => k (position + 1 + 1 + d) slots) =
        (fun d => k (position + 1 + d) slots) ∘ Nat.succ := by
      funext d
      rw [Function.comp_apply, Nat.succ_eq_add_one, Nat.add_assoc, Nat.add_comm 1 d]
    rw [first, first_set_of_drop h, if_pos (hrun c List.mem_cons_self), dif_pos ⟨by omega, hlt⟩,
      hnext, prefer, if_neg Bool.false_ne_true, hshifts, List.length_cons, List.range_succ_eq_map,
      List.findSome?_cons, List.findSome?_map]
    cases k (position + 1) slots <;> simp_all

end TrackedComments.Pattern.Regex

import TrackedComments.Proofs.Marker

/-!
# Taking markers off

The markers at the end of a line are taken off one by one, with the blanks around them. What is left
is a beginning of the line that ends neither in a blank nor in a marker.

## Main results

* `Marker.dropReversed_eq_some_iff`: what is taken off as one marker.
* `Marker.stripTrailing_append_format`: a marker that has been added is taken off again.
* `Marker.stripTrailing_prefix`, `Marker.trimEnd_stripTrailing`: what is left.
-/

namespace TrackedComments.Marker

/-! ### One marker -/

/-- What is dropped is a marker, read from its end. -/
theorem dropReversed_eq_some_iff {cs rest : List Char} :
    dropReversed cs = some rest ↔
      ∃ digits, digits ≠ [] ∧ (∀ d ∈ digits, d.isDigit) ∧
        cs = ']' :: (digits ++ (opening.reverse ++ rest)) := by
  constructor
  · intro h
    unfold dropReversed at h
    split at h
    · rename_i tail
      dsimp only at h
      split at h
      · simp at h
      · rename_i hne
        split at h
        · rename_i hopening
          obtain ⟨more, hmore⟩ := List.isPrefixOf_iff_prefix.mp hopening
          have hrest : more = rest := by
            rw [← hmore] at h
            exact Option.some.inj h
          refine ⟨tail.takeWhile Char.isDigit, by simpa using hne,
            List.all_eq_true.mp List.all_takeWhile, ?_⟩
          rw [← hrest, hmore, List.takeWhile_append_dropWhile]
        · simp at h
    · simp at h
  · rintro ⟨digits, hne, hdigits, rfl⟩
    have hstop : (opening.reverse ++ rest).takeWhile Char.isDigit = [] ∧
        (opening.reverse ++ rest).dropWhile Char.isDigit = opening.reverse ++ rest := by
      simp [opening, Char.isDigit]
    have hpre : opening.reverse.isPrefixOf (opening.reverse ++ rest) :=
      List.isPrefixOf_iff_prefix.mpr (List.prefix_append _ _)
    have hdrop : (opening.reverse ++ rest).drop opening.length = rest := rfl
    rw [dropReversed]
    simp only [List.takeWhile_append_of_pos hdigits, List.dropWhile_append_of_pos hdigits, hstop.1,
      hstop.2, List.append_nil, if_pos hpre, hdrop]
    simp [hne]

/-- What is left after a marker is dropped is an end of the text. -/
theorem dropReversed_suffix {cs rest : List Char} (h : dropReversed cs = some rest) :
    rest <:+ cs := by
  obtain ⟨digits, -, -, rfl⟩ := dropReversed_eq_some_iff.mp h
  exact ⟨']' :: (digits ++ opening.reverse), by simp⟩

/-- A marker at the end of a line is dropped. -/
theorem dropReversed_format (n : UInt64) (rest : List Char) :
    dropReversed ((format n).reverse ++ rest) = some rest := by
  refine dropReversed_eq_some_iff.mpr ⟨n.toNat.repr.toList.reverse, ?_, fun d hd => ?_, ?_⟩
  · rw [Ne, List.reverse_eq_nil_iff, Nat.toList_repr]
    exact Nat.toDigits_ne_nil
  · exact isDigit_of_mem_repr (List.mem_reverse.mp hd)
  · simp [format]

/-! ### All markers -/

/-- Without a blank or a marker in front nothing is taken off. -/
theorem stripReversed_of_dropReversed_eq_none {cs : List Char} (hblank : Chars.trimStart cs = cs)
    (h : dropReversed cs = none) : stripReversed cs = cs := by
  have hnone : dropReversed (cs.dropWhile isSpace) = none := by rwa [← Chars.trimStart, hblank]
  rw [stripReversed]
  split
  · exact hblank
  · rename_i rest hsome
    rw [hnone] at hsome
    simp at hsome

/-- A marker in front is taken off. -/
theorem stripReversed_of_dropReversed {cs rest : List Char} (hblank : Chars.trimStart cs = cs)
    (h : dropReversed cs = some rest) : stripReversed cs = stripReversed rest := by
  have hsome : dropReversed (cs.dropWhile isSpace) = some rest := by rwa [← Chars.trimStart, hblank]
  rw [stripReversed]
  split
  · rename_i hnone
    rw [hsome] at hnone
    simp at hnone
  · rename_i rest' hsome'
    rw [hsome] at hsome'
    rw [Option.some.inj hsome']

/-- Blanks in front are taken off. -/
theorem stripReversed_trimStart (cs : List Char) :
    stripReversed (Chars.trimStart cs) = stripReversed cs := by
  have hdrop : (Chars.trimStart cs).dropWhile isSpace = cs.dropWhile isSpace :=
    Chars.trimStart_eq_self_iff.mpr (Chars.isSpace_of_mem_head?_trimStart cs)
  rw [stripReversed, stripReversed.eq_def cs, hdrop]

/-- What is left does not begin with a blank. -/
theorem trimStart_stripReversed (cs : List Char) :
    Chars.trimStart (stripReversed cs) = stripReversed cs := by
  fun_induction stripReversed cs with
  | case1 cs h => exact Chars.trimStart_eq_self_iff.mpr (Chars.isSpace_of_mem_head?_trimStart _)
  | case2 cs rest h ih => exact ih

/-- What is left is an end of the text. -/
theorem stripReversed_suffix (cs : List Char) : stripReversed cs <:+ cs := by
  fun_induction stripReversed cs with
  | case1 cs h => exact List.dropWhile_suffix _
  | case2 cs rest h ih => exact ih.trans ((dropReversed_suffix h).trans (List.dropWhile_suffix _))

/-! ### What is left of a line -/

/-- Blanks at the end of a line are taken off with the markers. -/
theorem stripTrailing_trimEnd (line : List Char) :
    stripTrailing (Chars.trimEnd line) = stripTrailing line := by
  rw [stripTrailing, Chars.trimEnd, List.reverse_reverse, ← Chars.trimStart,
    stripReversed_trimStart, ← stripTrailing]

/-- A blank at the end of a line is stripped. -/
theorem stripTrailing_append_blank (line : List Char) {c : Char} (hc : isSpace c) :
    stripTrailing (line ++ [c]) = stripTrailing line := by
  rw [← stripTrailing_trimEnd, Chars.trimEnd_append_of_isSpace line (by simpa using hc),
    stripTrailing_trimEnd]

/-- A marker that has been added to a line is taken off again. -/
theorem stripTrailing_append_format (line : List Char) (n : UInt64) :
    stripTrailing (line ++ ' ' :: format n) = stripTrailing line := by
  have hreverse : (line ++ ' ' :: format n).reverse =
      (format n).reverse ++ (line ++ [' ']).reverse := by
    simp
  have hblank : Chars.trimStart ((format n).reverse ++ (line ++ [' ']).reverse) =
      (format n).reverse ++ (line ++ [' ']).reverse := by
    have hclose : isSpace ']' = false := by decide
    simp [format, Chars.trimStart, hclose]
  rw [stripTrailing, hreverse, stripReversed_of_dropReversed hblank (dropReversed_format n _),
    ← stripTrailing, stripTrailing_append_blank line (by decide)]

/-- Nothing blank is left at the end. -/
theorem trimEnd_stripTrailing (line : List Char) :
    Chars.trimEnd (stripTrailing line) = stripTrailing line := by
  rw [stripTrailing, Chars.trimEnd, List.reverse_reverse, ← Chars.trimStart,
    trimStart_stripReversed]

/-- What is left is the beginning of the line. -/
theorem stripTrailing_prefix (line : List Char) : stripTrailing line <+: line := by
  rw [← List.reverse_suffix, stripTrailing, List.reverse_reverse]
  exact stripReversed_suffix line.reverse

end TrackedComments.Marker

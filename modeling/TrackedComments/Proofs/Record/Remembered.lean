import TrackedComments.Proofs.Record

/-!
# What a saved list remembers

A saved list may hold several records with one identity, be it that somebody has put two lists
together by hand. Then the last one of them counts. It gives its number, unless its text carries a
marker: that number was read from the line and is gone when the marker is.

The records with other identities have no part in this, and neither has the order of a list in which
no identity occurs twice.

## Main results

* `numbered_iff`: the number that a record has after it has been reconciled, by the last record
  with its identity.
* `rememberedIssue_congr`: only the records with the identity count.
* `rememberedIssue_of_perm`: the order of a table does not count.
-/

namespace TrackedComments

open CommentRecord

variable {saved others : List CommentRecord} {file : String} {line : UInt32}
  {r last : CommentRecord} {number : Option UInt64}

/-! ### The last record with an identity -/

/-- Whether a record is the last one of a list with an identity. -/
def LastAt (records : List CommentRecord) (file : String) (line : UInt32) (last : CommentRecord) :
    Prop :=
  ∃ before after, records = before ++ last :: after ∧ last.isAt file line ∧
    ∀ r ∈ after, ¬ r.isAt file line

/-- The saved record of a place is the last one there. -/
theorem savedRecord?_eq_some_iff : savedRecord? saved file line = some last ↔
    LastAt saved file line last := by
  rw [savedRecord?, List.find?_eq_some_iff_append]
  constructor
  · rintro ⟨hat, after, before, hreverse, hafter⟩
    refine ⟨before.reverse, after.reverse, ?_, hat, fun r hr => ?_⟩
    · rw [← List.reverse_reverse saved, hreverse]
      simp
    · simpa using hafter r (List.mem_reverse.mp hr)
  · rintro ⟨before, after, rfl, hat, hafter⟩
    refine ⟨hat, after.reverse, before.reverse, by simp, fun r hr => ?_⟩
    simpa using hafter r (List.mem_reverse.mp hr)

/-- A place has no saved record just when none is there. -/
theorem savedRecord?_eq_none_iff : savedRecord? saved file line = none ↔
    ∀ r ∈ saved, ¬ r.isAt file line := by
  simp [savedRecord?]

/-- The saved record of a place is the last of those that are there. -/
theorem savedRecord?_eq_getLast? (saved : List CommentRecord) (file : String) (line : UInt32) :
    savedRecord? saved file line = (saved.filter (·.isAt file line)).getLast? := by
  rw [savedRecord?, ← List.head?_filter, List.filter_reverse, List.head?_reverse]

/-- What is remembered of a place is the number of its saved record, unless that has a marker. -/
theorem rememberedIssue_eq_bind (saved : List CommentRecord) (file : String) (line : UInt32) :
    rememberedIssue saved file line =
      (savedRecord? saved file line).bind fun last =>
        if last.hasMarker then none else last.issueNumber := by
  rw [rememberedIssue, savedRecord?]
  cases saved.reverse.find? (·.isAt file line) <;> rfl

/-- The last record of a place decides what is remembered of it. -/
theorem LastAt.rememberedIssue_eq (h : LastAt saved file line last) :
    rememberedIssue saved file line = if last.hasMarker then none else last.issueNumber := by
  rw [rememberedIssue_eq_bind, savedRecord?_eq_some_iff.mpr h, Option.bind_some]

/-- A list has a last record with an identity, or none at all. -/
theorem exists_lastAt_or_forall (saved : List CommentRecord) (file : String) (line : UInt32) :
    (∃ last, LastAt saved file line last) ∨ ∀ r ∈ saved, ¬ r.isAt file line := by
  cases hlast : savedRecord? saved file line with
  | none => exact .inr (savedRecord?_eq_none_iff.mp hlast)
  | some last => exact .inl ⟨last, savedRecord?_eq_some_iff.mp hlast⟩

/-! ### What counts -/

/-- Only the records with the identity count. -/
theorem rememberedIssue_congr
    (h : others.filter (·.isAt file line) = saved.filter (·.isAt file line)) :
    rememberedIssue others file line = rememberedIssue saved file line := by
  rw [rememberedIssue_eq_bind, rememberedIssue_eq_bind, savedRecord?_eq_getLast?,
    savedRecord?_eq_getLast?, h]

/-- The order of a table does not count. -/
theorem rememberedIssue_of_perm (hperm : others.Perm saved) (hnodup : (saved.map identity).Nodup)
    (file : String) (line : UInt32) :
    rememberedIssue others file line = rememberedIssue saved file line := by
  have hnodup' : (others.map identity).Nodup := (hperm.map identity).nodup_iff.mpr hnodup
  by_cases hat : ∃ r ∈ saved, r.isAt file line
  · obtain ⟨r, hr, hat⟩ := hat
    obtain ⟨rfl, rfl⟩ := isAt_iff_file_line.mp hat
    rw [rememberedIssue_of_mem hnodup' (hperm.mem_iff.mpr hr), rememberedIssue_of_mem hnodup hr]
  · have hnone : ∀ r ∈ saved, ¬ r.isAt file line := fun r hr hat' => hat ⟨r, hr, hat'⟩
    rw [rememberedIssue_eq_none hnone,
      rememberedIssue_eq_none fun r hr => hnone r (hperm.mem_iff.mp hr)]

/-! ### The number of a record -/

/-- The number of a record that has been reconciled with a saved list. -/
inductive Numbered (saved : List CommentRecord) (r : CommentRecord) : Option UInt64 → Prop where
  /-- The text carries a marker. -/
  | marked {number : UInt64} : Marker.find? r.text.toList = some number →
      Numbered saved r (some number)
  /-- The last record with the identity carries none either, and the link lives in the list. -/
  | remembered {last : CommentRecord} : r.hasMarker = false → LastAt saved r.file r.line last →
      last.hasMarker = false → Numbered saved r last.issueNumber
  /-- The marker of the last record with the identity has been taken off. -/
  | removed {last : CommentRecord} : r.hasMarker = false → LastAt saved r.file r.line last →
      last.hasMarker → Numbered saved r none
  /-- The list has no record with the identity. -/
  | unknown : r.hasMarker = false → (∀ s ∈ saved, ¬ s.isAt r.file r.line) → Numbered saved r none

/-- A record whose number is that of the marker in its text gets exactly the number that the last
saved record with its identity lets it have. -/
theorem numbered_iff (hmark : r.issueNumber = Marker.find? r.text.toList) :
    Numbered saved r number ↔ number = r.issueNumber.or (rememberedIssue saved r.file r.line) := by
  have hnone (h : r.hasMarker = false) : r.issueNumber = none := by
    rw [hmark]
    simpa [hasMarker] using h
  constructor
  · intro h
    cases h with
    | marked hfind => rw [hmark, hfind, Option.some_or]
    | remembered hr hlast hunmarked =>
      rw [hnone hr, Option.none_or, hlast.rememberedIssue_eq, if_neg (by simp [hunmarked])]
    | removed hr hlast hmarked =>
      rw [hnone hr, Option.none_or, hlast.rememberedIssue_eq, if_pos hmarked]
    | unknown hr hsaved => rw [hnone hr, Option.none_or, rememberedIssue_eq_none hsaved]
  · rintro rfl
    cases hfind : Marker.find? r.text.toList with
    | some n =>
      rw [hmark, hfind, Option.some_or]
      exact .marked hfind
    | none =>
      have hr : r.hasMarker = false := by rw [hasMarker, hfind]; rfl
      rw [hnone hr, Option.none_or]
      rcases exists_lastAt_or_forall saved r.file r.line with ⟨last, hlast⟩ | hsaved
      · rw [hlast.rememberedIssue_eq]
        split
        · rename_i hmarked
          exact .removed hr hlast hmarked
        · rename_i hmarked
          exact .remembered hr hlast (by simpa using hmarked)
      · rw [rememberedIssue_eq_none hsaved]
        exact .unknown hr hsaved

end TrackedComments

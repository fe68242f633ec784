import TrackedComments.Proofs.Record

/-!
# One row of a table

A table has one row at most for an identity. To link a record changes the row of its identity, which
keeps what is not about the link, or adds the record where there is no such row. All other rows stay
where they are, the table stays a table, and to link the record again changes nothing.

## Main results

* `upserted_linkRecord`: what a table becomes when a record is linked.
* `Upserted.nodup`: the table stays a table.
* `Upserted.linkRecord_eq`: linking the record again changes nothing.
-/

namespace TrackedComments

open CommentRecord
open StateStore (linkRecord)

variable {records updated before after : List CommentRecord} {record old : CommentRecord}
  {number : UInt64}

/-- How a table and the table in which a record has been linked belong together. -/
inductive Upserted (record : CommentRecord) (number : UInt64) :
    List CommentRecord → List CommentRecord → Prop where
  /-- The row of the identity takes the number and the text. -/
  | updated (before after : List CommentRecord) (old : CommentRecord) :
      old.identity = record.identity →
      Upserted record number (before ++ old :: after)
        (before ++ { old with text := record.text, issueNumber := some number } :: after)
  /-- There was no such row. -/
  | added (records : List CommentRecord) : (∀ r ∈ records, r.identity ≠ record.identity) →
      Upserted record number records (records ++ [record.withIssue number])

/-! ### Rows with an identity -/

/-- No other row of a table has the identity of a row. -/
theorem not_isAt_of_nodup (h : ((before ++ old :: after).map identity).Nodup)
    (hid : old.identity = record.identity) :
    (∀ r ∈ before, ¬ r.isAt record.file record.line) ∧
      ∀ r ∈ after, ¬ r.isAt record.file record.line := by
  rw [List.map_append, List.map_cons, List.nodup_middle, List.nodup_cons, List.mem_append,
    not_or] at h
  constructor
  · intro r hr hat
    exact h.1.1 (List.mem_map.mpr ⟨r, hr, (isAt_iff.mp hat).trans hid.symm⟩)
  · intro r hr hat
    exact h.1.2 (List.mem_map.mpr ⟨r, hr, (isAt_iff.mp hat).trans hid.symm⟩)

/-- Linking a record changes the row of its identity and no other. -/
theorem linkRecord_append_cons (h : ((before ++ old :: after).map identity).Nodup)
    (hid : old.identity = record.identity) (number : UInt64) :
    linkRecord (before ++ old :: after) record number =
      before ++ old.linkedLike record number :: after := by
  obtain ⟨hbefore, hafter⟩ := not_isAt_of_nodup h hid
  have hat : old.isAt record.file record.line := isAt_iff.mpr hid
  rw [StateStore.linkRecord_eq_map h ⟨old, by simp, hid⟩, List.map_append, List.map_cons,
    if_pos hat, map_ite_isAt_of_forall _ hbefore, map_ite_isAt_of_forall _ hafter]

/-! ### Linking -/

/-- What a table becomes when a record is linked. -/
theorem upserted_linkRecord (h : (records.map identity).Nodup) (record : CommentRecord)
    (number : UInt64) : Upserted record number records (linkRecord records record number) := by
  by_cases hold : ∃ old ∈ records, old.identity = record.identity
  · obtain ⟨old, hmem, hid⟩ := hold
    obtain ⟨before, after, rfl⟩ := List.append_of_mem hmem
    rw [linkRecord_append_cons h hid]
    exact .updated before after old hid
  · have hnone : ∀ r ∈ records, r.identity ≠ record.identity := by
      intro r hr hid
      exact hold ⟨r, hr, hid⟩
    rw [StateStore.linkRecord_of_forall_ne hnone]
    exact .added records hnone

namespace Upserted

/-- The table stays a table. -/
theorem nodup (h : Upserted record number records updated) (hnodup : (records.map identity).Nodup) :
    (updated.map identity).Nodup := by
  cases h with
  | updated before after old hid =>
    rw [List.map_append, List.map_cons] at hnodup ⊢
    exact hnodup
  | added records hnone =>
    rw [List.map_append, List.map_singleton, ← List.concat_eq_append]
    refine hnodup.concat ?_
    rw [List.mem_map]
    rintro ⟨r, hr, hid⟩
    exact hnone r hr hid

/-- Linking the record again changes nothing. -/
theorem linkRecord_eq (h : Upserted record number records updated)
    (hnodup : (records.map identity).Nodup) : linkRecord updated record number = updated := by
  have hagain := h.nodup hnodup
  cases h with
  | updated before after old hid => exact linkRecord_append_cons hagain hid number
  | added records hnone => exact linkRecord_append_cons hagain rfl number

end Upserted

end TrackedComments

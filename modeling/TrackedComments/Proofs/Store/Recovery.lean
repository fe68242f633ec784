import TrackedComments.Proofs.FileTree.Texts
import TrackedComments.Proofs.Record.Remembered

/-!
# Links that are found again

A link whose comment has no marker lives in the saved list alone, and the next scan has to find it
there. Linking gives the number to all saved records with the identity, but the text only to the
first of them, while the last one is asked for the number. That one still has the text it had. If
there was a marker in it, the number counts as read from the line, so it is not given again.

A table has one record at most for an identity, and there every link is found again.

## Main results

* `StateStore.rememberedIssue_linkRecord`: what a list remembers about a record after linking it.
* `StateStore.recoverable_of_nodup`: in a table every link can be found again.
* `StateStore.reconcile_recordIssue_iff`: when a link that was recorded is found again.
-/

namespace TrackedComments

open CommentRecord

variable {file : String} {line : UInt32}

/-! ### The records with an identity -/

/-- All records at the place of a link get its number. -/
theorem filter_isAt_linkIssue (records : List CommentRecord) (file : String) (line : UInt32)
    (number : UInt64) :
    (linkIssue records file line number).filter (·.isAt file line) =
      (records.filter (·.isAt file line)).map (·.withIssue number) := by
  rw [linkIssue]
  induction records with
  | nil => rfl
  | cons r rest ih =>
    by_cases hat : r.isAt file line
    · have hlinked : (r.withIssue number).isAt file line := hat
      simp only [List.map_cons, List.filter_cons, if_pos hat, if_pos hlinked, ih]
    · simp only [List.map_cons, List.filter_cons, if_neg hat, ih]

/-- A change to the first record at a place changes the first of those that are there. -/
theorem filter_isAt_modifyFirst {f : CommentRecord → CommentRecord}
    (hf : ∀ r, (f r).identity = r.identity) (records : List CommentRecord) :
    (modifyFirst file line f records).filter (·.isAt file line) =
      (records.filter (·.isAt file line)).modifyHead f := by
  induction records with
  | nil => rfl
  | cons r rest ih =>
    rw [modifyFirst]
    by_cases hat : r.isAt file line
    · have hchanged : (f r).isAt file line := isAt_iff.mpr ((hf r).trans (isAt_iff.mp hat))
      simp only [List.filter_cons, if_pos hat, if_pos hchanged, List.modifyHead_cons]
    · simp only [List.filter_cons, if_neg hat, ih]

/-- A table has one record at most with an identity. -/
theorem length_filter_isAt_le_one {records : List CommentRecord}
    (h : (records.map identity).Nodup) (file : String) (line : UInt32) :
    (records.filter (·.isAt file line)).length ≤ 1 := by
  have hsame : ∀ i ∈ (records.filter (·.isAt file line)).map identity, i = (file, line) := by
    intro i hi
    obtain ⟨r, hr, rfl⟩ := List.mem_map.mp hi
    exact isAt_iff.mp (List.mem_filter.mp hr).2
  have hnodup : ((records.filter (·.isAt file line)).map identity).Nodup :=
    h.sublist (List.filter_sublist.map identity)
  rw [List.eq_replicate_of_mem hsame, List.nodup_replicate] at hnodup
  simpa using hnodup

namespace StateStore

/-- The records with the identity of a record that has been linked: all of them have the number, and
the first one has the text. -/
theorem filter_isAt_linkRecord (records : List CommentRecord) (record : CommentRecord)
    (number : UInt64) :
    (linkRecord records record number).filter (·.isAt record.file record.line) =
      match records.filter (·.isAt record.file record.line) with
      | [] => [record.withIssue number]
      | first :: rest => first.linkedLike record number :: rest.map (·.withIssue number) := by
  cases hmatches : records.filter (·.isAt record.file record.line) with
  | nil =>
    have hnone : ∀ r ∈ records, r.identity ≠ record.identity := by
      intro r hr hid
      exact List.filter_eq_nil_iff.mp hmatches r hr (isAt_iff.mpr hid)
    have hlinked : (record.withIssue number).isAt record.file record.line := record.isAt_self
    rw [linkRecord_of_forall_ne hnone, List.filter_append, hmatches]
    simp only [List.filter_cons, if_pos hlinked, List.filter_nil, List.nil_append]
  | cons first rest =>
    have hany : records.any (·.isAt record.file record.line) := by
      have hfirst : first ∈ records.filter (·.isAt record.file record.line) := by
        rw [hmatches]
        exact List.mem_cons_self
      exact List.any_eq_true.mpr ⟨first, List.mem_filter.mp hfirst⟩
    rw [linkRecord, if_pos hany, filter_isAt_modifyFirst ?_, filter_isAt_linkIssue, hmatches]
    · rfl
    · exact fun _ => rfl

/-! ### What is remembered -/

/-- Whether the link of an identity can be found again once it has been saved: the last record with
the identity is the first one, whose text is replaced, or its text carries no marker. -/
def Recoverable (records : List CommentRecord) (file : String) (line : UInt32) : Prop :=
  ∀ last ∈ (records.filter (·.isAt file line)).tail.getLast?, last.hasMarker = false

/-- In a list without repetitions every link can be found again. -/
theorem recoverable_of_nodup {records : List CommentRecord} (h : (records.map identity).Nodup)
    (file : String) (line : UInt32) : Recoverable records file line := by
  have hlength := length_filter_isAt_le_one h file line
  unfold Recoverable
  cases hmatches : records.filter (·.isAt file line) with
  | nil => simp
  | cons first rest =>
    rw [hmatches, List.length_cons] at hlength
    obtain rfl : rest = [] := List.length_eq_zero_iff.mp (by omega)
    simp

/-- What a list remembers about a record without a marker after linking it: the number, or nothing
if the link cannot be found again. -/
theorem rememberedIssue_linkRecord (records : List CommentRecord) {record : CommentRecord}
    (hunmarked : record.hasMarker = false) (number : UInt64) :
    (Recoverable records record.file record.line →
      rememberedIssue (linkRecord records record number) record.file record.line = some number) ∧
    (¬ Recoverable records record.file record.line →
      rememberedIssue (linkRecord records record number) record.file record.line = none) := by
  unfold Recoverable
  rw [rememberedIssue_eq_bind, savedRecord?_eq_getLast?, filter_isAt_linkRecord]
  cases records.filter (·.isAt record.file record.line) with
  | nil => simp [hunmarked]
  | cons first rest =>
    rcases List.eq_nil_or_concat rest with rfl | ⟨middle, last, rfl⟩
    · simp [hunmarked]
    · -- the last record is linked as well, but keeps its text
      cases hmarked : last.hasMarker <;> simp [List.getLast?_cons, hmarked]

/-- A link is found again exactly where it is recoverable, by each record of a scan that has its
identity and no number. Elsewhere such a record goes without a number. -/
theorem reconcile_recordIssue_iff {s : StateStore} {t t' : FileTree}
    {record fresh : CommentRecord} {number : UInt64} {list scanned : List CommentRecord}
    {index : Nat} (hunmarked : record.hasMarker = false)
    (h : s.recordIssue t record number = (t', .ok list)) (hfresh : scanned[index]? = some fresh)
    (hid : fresh.identity = record.identity) (hnone : fresh.issueNumber = none) :
    ((reconcile scanned (s.load t'))[index]? = some (fresh.withNumber (some number)) ↔
        Recoverable (s.load t) record.file record.line) ∧
      ((reconcile scanned (s.load t'))[index]? = some fresh ↔
        ¬ Recoverable (s.load t) record.file record.line) := by
  obtain ⟨hsave, rfl⟩ := recordIssue_eq_ok_iff.mp h
  obtain ⟨hfile, hline⟩ := Prod.mk.inj hid
  obtain ⟨hfound, hlost⟩ := rememberedIssue_linkRecord (s.load t) hunmarked number
  have hrow : (reconcile scanned (s.load t'))[index]? = some (fresh.withNumber
      (rememberedIssue (linkRecord (s.load t) record number) record.file record.line)) := by
    rw [load_of_save_ok hsave, reconcile_eq_map, List.getElem?_map, hfresh, Option.map_some,
      hnone, Option.none_or, hfile, hline]
  have hbare : fresh.withNumber none = fresh := by
    rw [← hnone]
    rfl
  have hne : fresh.withNumber (some number) ≠ fresh := by
    intro heq
    have hnumber := congrArg CommentRecord.issueNumber heq
    rw [hnone] at hnumber
    exact absurd hnumber (Option.some_ne_none number)
  rw [hrow]
  by_cases hrec : Recoverable (s.load t) record.file record.line
  · rw [hfound hrec]
    simp [hrec, hne]
  · rw [hlost hrec, hbare]
    simp [hrec, hne.symm]

/-! ### A line that is saved twice -/

/-- The comment of the first line of a file. -/
def onFirstLine (text : String) : CommentRecord :=
  { file := "a.ts", line := 1, text, message := "x" }

/-- A link is found again if the first of two saved records is the one with a marker. -/
theorem reconcile_recordIssue_markedFirst :
    ∃ t t' list, (mk ".").load t = [onFirstLine "x [GH-#5]", onFirstLine "y"] ∧
      (mk ".").recordIssue t (onFirstLine "x") 7 = (t', .ok list) ∧
      (reconcile [onFirstLine "x"] ((mk ".").load t'))[0]? =
        some ((onFirstLine "x").withNumber (some 7)) := by
  obtain ⟨t, hload, hready⟩ := FileTree.exists_load_eq [onFirstLine "x [GH-#5]", onFirstLine "y"]
  obtain ⟨t', h, -⟩ := hready.exists_recordIssue (onFirstLine "x") 7
  refine ⟨t, t', _, hload, h, ?_⟩
  refine (reconcile_recordIssue_iff (by decide) h rfl rfl rfl).1.mpr ?_
  rw [hload, Recoverable]
  decide

/-- A link is not found again if the last of two saved records is the one with a marker: that record
has got the number, but it has kept its text. -/
theorem recorded_but_not_found :
    ∃ t t' list, (mk ".").load t = [onFirstLine "x", onFirstLine "x [GH-#5]"] ∧
      (onFirstLine "x").hasMarker = false ∧
      (mk ".").recordIssue t (onFirstLine "x") 7 = (t', .ok list) ∧
      reconcile [onFirstLine "x"] ((mk ".").load t') ≠ [(onFirstLine "x").withNumber (some 7)] := by
  obtain ⟨t, hload, hready⟩ := FileTree.exists_load_eq [onFirstLine "x", onFirstLine "x [GH-#5]"]
  obtain ⟨t', h, -⟩ := hready.exists_recordIssue (onFirstLine "x") 7
  refine ⟨t, t', _, hload, by decide, h, ?_⟩
  rw [load_of_save_ok (recordIssue_eq_ok_iff.mp h).1, hload]
  decide

end StateStore

end TrackedComments

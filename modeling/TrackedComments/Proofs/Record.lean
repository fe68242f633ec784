import Mathlib.Data.List.Nodup
import TrackedComments.Record
import TrackedComments.Store.Basic

/-!
# Lists of records by identity

A list of records with pairwise distinct identities is a table: the first record with an identity is
the only one, so that changing the first and changing all come to the same. Linking a record changes
the row of its identity, and reconciling fills in numbers and leaves everything else as it was
found.

## Main results

* `modifyFirst_eq_map`: the first record with an identity is the only one.
* `StateStore.linkRecord_eq_map`: linking a record that is in the table changes its row.
* `StateStore.linkedIn_linkRecord`, `StateStore.linkedIn_linkRecord_of_ne`: which links a list has
  after a record has been linked.
* `reconcile_eq_map`: a record gets the number of its own marker, or else the remembered one.
* `rememberedIssue_of_mem`: what a table remembers about a row.
-/

namespace TrackedComments

namespace CommentRecord

/-- The file and the line, by which a comment is found again. -/
def identity (r : CommentRecord) : String × UInt32 :=
  (r.file, r.line)

/-- A record is at the file and the line of its identity. -/
theorem isAt_iff {r : CommentRecord} {file : String} {line : UInt32} :
    r.isAt file line ↔ r.identity = (file, line) := by
  simp [isAt, identity]

/-- A record is at its own file and line. -/
theorem isAt_self (r : CommentRecord) : r.isAt r.file r.line :=
  isAt_iff.mpr rfl

/-- A record is at a place if its file and its line are those. -/
theorem isAt_iff_file_line {r : CommentRecord} {file : String} {line : UInt32} :
    r.isAt file line ↔ r.file = file ∧ r.line = line := by
  simp [isAt]

/-- The record with another number. -/
def withNumber (r : CommentRecord) (number : Option UInt64) : CommentRecord :=
  { r with issueNumber := number }

@[simp] theorem identity_withNumber (r : CommentRecord) (number : Option UInt64) :
    (r.withNumber number).identity = r.identity := rfl

@[simp] theorem issueNumber_withNumber (r : CommentRecord) (number : Option UInt64) :
    (r.withNumber number).issueNumber = number := rfl

@[simp] theorem identity_withIssue (r : CommentRecord) (number : UInt64) :
    (r.withIssue number).identity = r.identity := rfl

@[simp] theorem hasMarker_withIssue (r : CommentRecord) (number : UInt64) :
    (r.withIssue number).hasMarker = r.hasMarker := rfl

@[simp] theorem issueNumber_withIssue (r : CommentRecord) (number : UInt64) :
    (r.withIssue number).issueNumber = some number := rfl

end CommentRecord

open CommentRecord

/-! ### Tables -/

/-- Where no identity occurs twice, records with the same one are the same. -/
theorem eq_of_identity_eq {records : List CommentRecord} (h : (records.map identity).Nodup)
    {r r' : CommentRecord} (hr : r ∈ records) (hr' : r' ∈ records)
    (heq : r.identity = r'.identity) : r = r' :=
  List.inj_on_of_nodup_map h hr hr' heq

/-- A record that is found at a place is listed, with that place as its identity. -/
theorem mem_of_find?_isAt {records : List CommentRecord} {file : String} {line : UInt32}
    {r : CommentRecord} (h : records.find? (·.isAt file line) = some r) :
    r ∈ records ∧ r.identity = (file, line) := by
  have hat := List.find?_some h
  exact ⟨List.mem_of_find?_eq_some h, isAt_iff.mp hat⟩

/-- A row is what is found by its identity. -/
theorem find?_isAt_of_mem {records : List CommentRecord} (h : (records.map identity).Nodup)
    {r : CommentRecord} (hr : r ∈ records) {file : String} {line : UInt32}
    (hat : r.isAt file line) : records.find? (·.isAt file line) = some r := by
  cases hfind : records.find? (·.isAt file line) with
  | none =>
    have hnone := List.find?_eq_none.mp hfind r hr
    exact absurd hat hnone
  | some r' =>
    obtain ⟨hr', hid'⟩ := mem_of_find?_isAt hfind
    rw [eq_of_identity_eq h hr' hr (hid'.trans (isAt_iff.mp hat).symm)]

/-- Records that keep their identities one by one keep the list of them. -/
theorem map_identity_map {records : List CommentRecord} {f : CommentRecord → CommentRecord}
    (h : ∀ r ∈ records, (f r).identity = r.identity) :
    (records.map f).map identity = records.map identity := by
  rw [List.map_map]
  exact List.map_congr_left h

/-- Changing the records with an identity leaves a list without such a record as it is. -/
theorem map_ite_isAt_of_forall {records : List CommentRecord} {file : String} {line : UInt32}
    (f : CommentRecord → CommentRecord) (h : ∀ r ∈ records, ¬ r.isAt file line) :
    (records.map fun r => if r.isAt file line then f r else r) = records := by
  conv_rhs => rw [← List.map_id records]
  exact List.map_congr_left fun r hr => if_neg (h r hr)

/-- The records around the first one with an identity stay as they are. -/
theorem modifyFirst_append_cons {before : List CommentRecord} {file : String} {line : UInt32}
    {r : CommentRecord} (hbefore : ∀ a ∈ before, a.isAt file line = false)
    (hat : r.isAt file line) (f : CommentRecord → CommentRecord) (after : List CommentRecord) :
    modifyFirst file line f (before ++ r :: after) = before ++ f r :: after := by
  induction before with
  | nil => rw [List.nil_append, modifyFirst, if_pos hat, List.nil_append]
  | cons first rest ih =>
    have hfirst : ¬ first.isAt file line := by simp [hbefore first List.mem_cons_self]
    rw [List.cons_append, modifyFirst, if_neg hfirst,
      ih fun a ha => hbefore a (List.mem_cons_of_mem _ ha), List.cons_append]

/-- Changing the first record with an identity changes all of them. -/
theorem modifyFirst_eq_map {records : List CommentRecord} (h : (records.map identity).Nodup)
    (file : String) (line : UInt32) (f : CommentRecord → CommentRecord) :
    modifyFirst file line f records =
      records.map fun r => if r.isAt file line then f r else r := by
  induction records with
  | nil => rfl
  | cons r rest ih =>
    rw [List.map_cons, List.nodup_cons] at h
    rw [modifyFirst, List.map_cons]
    by_cases hat : r.isAt file line
    · have hrest : ∀ r' ∈ rest, ¬ r'.isAt file line := by
        intro r' hr' hat'
        refine h.1 (List.mem_map.mpr ⟨r', hr', ?_⟩)
        exact (isAt_iff.mp hat').trans (isAt_iff.mp hat).symm
      rw [if_pos hat, if_pos hat, map_ite_isAt_of_forall f hrest]
    · rw [if_neg hat, if_neg hat, ih h.2]

/-- Lists that ascend by file are the same if they hold the same records for every file. -/
theorem eq_of_filter_file_eq {records others : List CommentRecord}
    (h : records.Pairwise (·.file ≤ ·.file)) (h' : others.Pairwise (·.file ≤ ·.file))
    (hsame : ∀ file, records.filter (·.file == file) = others.filter (·.file == file)) :
    records = others := by
  have hmem (records others : List CommentRecord)
      (hsame : ∀ file, records.filter (·.file == file) = others.filter (·.file == file))
      (r : CommentRecord) : r ∈ records ↔ r ∈ others := by
    simpa using congrArg (r ∈ ·) (hsame r.file)
  induction records generalizing others with
  | nil => exact (List.eq_nil_iff_forall_not_mem.mpr fun r hr =>
      List.not_mem_nil ((hmem _ _ hsame r).mpr hr)).symm
  | cons r rest ih =>
    cases others with
    | nil => exact absurd ((hmem _ _ hsame r).mp List.mem_cons_self) List.not_mem_nil
    | cons r' rest' =>
      obtain ⟨hr, hrest⟩ := List.pairwise_cons.mp h
      obtain ⟨hr', hrest'⟩ := List.pairwise_cons.mp h'
      -- both lists begin with the least file
      have hle : r.file ≤ r'.file := by
        rcases List.mem_cons.mp ((hmem _ _ hsame r').mpr List.mem_cons_self) with rfl | hlater
        · exact String.le_refl _
        · exact hr r' hlater
      have hle' : r'.file ≤ r.file := by
        rcases List.mem_cons.mp ((hmem _ _ hsame r).mp List.mem_cons_self) with rfl | hlater
        · exact String.le_refl _
        · exact hr' r hlater
      have hfile : r'.file = r.file := String.le_antisymm hle' hle
      have hfirst := hsame r.file
      simp only [List.filter_cons, hfile, beq_self_eq_true, if_true, List.cons.injEq] at hfirst
      obtain ⟨rfl, -⟩ := hfirst
      refine congrArg (r :: ·) (ih hrest hrest' fun file => ?_)
      have hfilter := hsame file
      simp only [List.filter_cons] at hfilter
      split at hfilter
      · exact (List.cons.inj hfilter).2
      · exact hfilter

/-! ### Linking -/

/-- A row linked to an issue, with the text of another record. -/
def CommentRecord.linkedLike (r record : CommentRecord) (number : UInt64) : CommentRecord :=
  { r with text := record.text, issueNumber := some number }

@[simp] theorem CommentRecord.identity_linkedLike (r record : CommentRecord) (number : UInt64) :
    (r.linkedLike record number).identity = r.identity := rfl

@[simp] theorem CommentRecord.hasMarker_linkedLike (r record : CommentRecord) (number : UInt64) :
    (r.linkedLike record number).hasMarker = record.hasMarker := rfl

@[simp] theorem CommentRecord.issueNumber_linkedLike (r record : CommentRecord)
    (number : UInt64) : (r.linkedLike record number).issueNumber = some number := rfl

/-- Linking a record that is in the table changes its row. -/
theorem StateStore.linkRecord_eq_map {records : List CommentRecord}
    (h : (records.map identity).Nodup) {record : CommentRecord}
    (hmem : ∃ r ∈ records, r.identity = record.identity) (number : UInt64) :
    StateStore.linkRecord records record number =
      records.map fun r =>
        if r.isAt record.file record.line then r.linkedLike record number else r := by
  have hany : records.any (·.isAt record.file record.line) := by
    obtain ⟨r, hr, hid⟩ := hmem
    exact List.any_eq_true.mpr ⟨r, hr, isAt_iff.mpr hid⟩
  have hlink : (linkIssue records record.file record.line number).map identity =
      records.map identity :=
    map_identity_map fun r _ => by split <;> rfl
  rw [linkRecord, if_pos hany, modifyFirst_eq_map (hlink ▸ h), linkIssue, List.map_map]
  refine List.map_congr_left fun r _ => ?_
  by_cases hat : r.isAt record.file record.line
  · have hat' : (r.withIssue number).isAt record.file record.line := hat
    simp only [Function.comp_apply, if_pos hat, if_pos hat']
    rfl
  · simp [hat]

/-- Linking a record that is not in the list adds it at the end. -/
theorem StateStore.linkRecord_of_forall_ne {records : List CommentRecord} {record : CommentRecord}
    (h : ∀ r ∈ records, r.identity ≠ record.identity) (number : UInt64) :
    linkRecord records record number = records ++ [record.withIssue number] := by
  have hnone : ¬ records.any (·.isAt record.file record.line) := by
    intro hany
    obtain ⟨r, hr, hat⟩ := List.any_eq_true.mp hany
    exact h r hr (isAt_iff.mp hat)
  rw [linkRecord, if_neg hnone]

/-- Whether a list holds a record with the identity of a record and with a number. -/
def CommentRecord.LinkedIn (record : CommentRecord) (number : UInt64)
    (records : List CommentRecord) : Prop :=
  ∃ r ∈ records, r.identity = record.identity ∧ r.issueNumber = some number

/-- The links of a list are the same after a change that keeps identity and number. -/
theorem linkedIn_modifyFirst {records : List CommentRecord} {file : String} {line : UInt32}
    {f : CommentRecord → CommentRecord} (hid : ∀ r, (f r).identity = r.identity)
    (hnumber : ∀ r, (f r).issueNumber = r.issueNumber) (record : CommentRecord)
    (number : UInt64) :
    record.LinkedIn number (modifyFirst file line f records) ↔ record.LinkedIn number records := by
  induction records with
  | nil => rfl
  | cons r rest ih =>
    unfold LinkedIn at ih ⊢
    rw [modifyFirst]
    split
    · simp only [List.exists_mem_cons_iff, hid, hnumber]
    · simp only [List.exists_mem_cons_iff, ih]

/-- Linking a record puts the link in the list. -/
theorem StateStore.linkedIn_linkRecord (records : List CommentRecord) (record : CommentRecord)
    (number : UInt64) : record.LinkedIn number (linkRecord records record number) := by
  unfold linkRecord
  split
  · rename_i hany
    obtain ⟨r, hr, hat⟩ := List.any_eq_true.mp hany
    refine (linkedIn_modifyFirst ?_ ?_ record number).mpr
      ⟨r.withIssue number, List.mem_map.mpr ⟨r, hr, if_pos hat⟩, isAt_iff.mp hat, rfl⟩
    · exact fun _ => rfl
    · exact fun _ => rfl
  · exact ⟨record.withIssue number, by simp, rfl, rfl⟩

/-- Linking a record leaves the links of the others as they were. -/
theorem StateStore.linkedIn_linkRecord_of_ne {records : List CommentRecord}
    {record other : CommentRecord} (hne : other.identity ≠ record.identity)
    (number othersNumber : UInt64) :
    other.LinkedIn othersNumber (linkRecord records record number) ↔
      other.LinkedIn othersNumber records := by
  unfold linkRecord
  split
  · refine (linkedIn_modifyFirst ?_ ?_ other othersNumber).trans ?_
    · exact fun _ => rfl
    · exact fun _ => rfl
    · simp only [LinkedIn, linkIssue, List.mem_map, exists_exists_and_eq_and]
      refine exists_congr fun r => and_congr_right fun _ => ?_
      split
      · rename_i hat
        have hid : r.identity = record.identity := isAt_iff.mp hat
        have hid' : (r.withIssue number).identity = record.identity := hid
        rw [hid, hid']
        exact iff_of_false (fun h => hne h.1.symm) fun h => hne h.1.symm
      · exact Iff.rfl
  · have hid : (record.withIssue number).identity = record.identity := rfl
    simp [LinkedIn, or_and_right, exists_or, hid, hne.symm]

/-! ### Reconciling -/

/-- A record gets the number of its own marker, or else the one that is remembered. -/
theorem reconcile_eq_map (fresh saved : List CommentRecord) :
    reconcile fresh saved =
      fresh.map fun r =>
        r.withNumber (r.issueNumber.or (rememberedIssue saved r.file r.line)) := by
  refine List.map_congr_left fun r _ => ?_
  cases hr : r.issueNumber with
  | none => simp [withNumber]
  | some n =>
    simp only [withNumber, Option.some_or]
    rw [← hr]

/-- Reconciling keeps the identities of the fresh records, in their order. -/
theorem map_identity_reconcile (fresh saved : List CommentRecord) :
    (reconcile fresh saved).map identity = fresh.map identity := by
  rw [reconcile_eq_map]
  exact map_identity_map fun _ _ => rfl

/-- A reconciled record is a fresh one with its own number, or else with the remembered one. -/
theorem mem_reconcile {fresh saved : List CommentRecord} {r : CommentRecord} :
    r ∈ reconcile fresh saved ↔
      ∃ f ∈ fresh, r = f.withNumber (f.issueNumber.or (rememberedIssue saved f.file f.line)) := by
  simp only [reconcile_eq_map, List.mem_map, eq_comm]

/-- The record that is consulted for an identity: the last one that is saved with it. -/
def savedRecord? (saved : List CommentRecord) (file : String) (line : UInt32) :
    Option CommentRecord :=
  saved.reverse.find? (·.isAt file line)

/-- A number is remembered if the saved record has it without a marker. -/
theorem rememberedIssue_eq_some_iff {saved : List CommentRecord} {file : String} {line : UInt32}
    {held : CommentRecord} (h : savedRecord? saved file line = some held) {number : UInt64} :
    rememberedIssue saved file line = some number ↔
      held.hasMarker = false ∧ held.issueNumber = some number := by
  rw [savedRecord?] at h
  rw [rememberedIssue, h]
  dsimp only
  cases held.hasMarker <;> simp

/-- What is remembered if all records with an identity are one and the same. -/
theorem rememberedIssue_of_forall {saved : List CommentRecord} {file : String} {line : UInt32}
    {r : CommentRecord} (hr : r ∈ saved) (hat : r.isAt file line)
    (h : ∀ r' ∈ saved, r'.isAt file line → r' = r) :
    rememberedIssue saved file line = if r.hasMarker then none else r.issueNumber := by
  rw [rememberedIssue]
  cases hfind : saved.reverse.find? (·.isAt file line) with
  | none => exact absurd hat (List.find?_eq_none.mp hfind r (List.mem_reverse.mpr hr))
  | some r' =>
    have hat' := List.find?_some hfind
    rw [h r' (List.mem_reverse.mp (List.mem_of_find?_eq_some hfind)) hat']

/-- What a table remembers about a row: its number, unless that was read from a marker. -/
theorem rememberedIssue_of_mem {saved : List CommentRecord} (h : (saved.map identity).Nodup)
    {r : CommentRecord} (hr : r ∈ saved) :
    rememberedIssue saved r.file r.line = if r.hasMarker then none else r.issueNumber :=
  rememberedIssue_of_forall hr r.isAt_self fun _ hr' hat =>
    eq_of_identity_eq h hr' hr (isAt_iff.mp hat)

/-- The records of one file are reconciled among themselves. -/
theorem filter_file_reconcile (fresh saved : List CommentRecord) (file : String) :
    (reconcile fresh saved).filter (·.file == file) =
      reconcile (fresh.filter (·.file == file)) saved := by
  rw [reconcile_eq_map, reconcile_eq_map, List.filter_map]
  rfl

/-- Records that have been reconciled remember as much about themselves as they have been told,
because a number that was remembered belongs to a text without a marker. -/
theorem reconcile_of_subset {fresh saved records : List CommentRecord}
    (hmarks : ∀ r ∈ fresh, r.issueNumber = Marker.find? r.text.toList)
    (hunique : ∀ r ∈ records, ∀ r' ∈ records, r.identity = r'.identity → r = r')
    (hsub : reconcile fresh saved ⊆ records) :
    reconcile fresh records = reconcile fresh saved := by
  rw [reconcile_eq_map, reconcile_eq_map]
  refine List.map_congr_left fun r hr => congrArg r.withNumber ?_
  have hrow := hsub (mem_reconcile.mpr ⟨r, hr, rfl⟩)
  have hremembered := rememberedIssue_of_forall hrow (isAt_self _) fun r' hr' hat =>
    hunique r' hr' _ hrow (isAt_iff.mp hat)
  cases hnumber : r.issueNumber with
  | some number => rfl
  | none =>
    have hmarker : (r.withNumber (r.issueNumber.or
        (rememberedIssue saved r.file r.line))).hasMarker = false := by
      have hfind : Marker.find? r.text.toList = none := (hmarks r hr).symm.trans hnumber
      rw [hasMarker, withNumber, hfind]
      rfl
    rw [hmarker, hnumber] at hremembered
    rw [Option.none_or, Option.none_or]
    exact hremembered

/-- Nothing is remembered about what is not saved. -/
theorem rememberedIssue_eq_none {saved : List CommentRecord} {file : String} {line : UInt32}
    (h : ∀ r ∈ saved, ¬ r.isAt file line) : rememberedIssue saved file line = none := by
  have hnone : saved.reverse.find? (·.isAt file line) = none :=
    List.find?_eq_none.mpr fun r hr => h r (List.mem_reverse.mp hr)
  rw [rememberedIssue, hnone]

end TrackedComments

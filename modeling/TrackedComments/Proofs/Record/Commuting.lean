import Mathlib.Logic.Function.Conjugate
import TrackedComments.Proofs.Record

/-!
# Changes at different identities

A change of the records with one identity, be it of the first of them or of all, has nothing to do
with those of another identity. So such changes may be made in any order, and a list that is linked
to two issues does not tell which one came first. The identities in the list need not be distinct.

## Main results

* `commute_modifyFirst`, `commute_modifyAll`, `commute_modifyFirst_modifyAll`: changes at different
  identities commute.
* `StateStore.linkRecord_comm`: records are linked in any order.
-/

namespace TrackedComments

open CommentRecord

/-! ### Changes of a list -/

/-- Changes all records with an identity. -/
def modifyAll (file : String) (line : UInt32) (f : CommentRecord → CommentRecord)
    (records : List CommentRecord) : List CommentRecord :=
  records.map fun r => if r.isAt file line then f r else r

/-- Whether a change leaves records with an identity where they are. -/
def StaysAt (file : String) (line : UInt32) (f : CommentRecord → CommentRecord) : Prop :=
  ∀ r, r.isAt file line → (f r).isAt file line

section Different

variable {file other : String} {line otherLine : UInt32} {f g : CommentRecord → CommentRecord}
  (hne : (file, line) ≠ (other, otherLine))

include hne

/-- A record is not at two places. -/
theorem not_isAt_of_isAt {r : CommentRecord} (hat : r.isAt file line) : ¬ r.isAt other otherLine :=
  fun hat' => hne ((isAt_iff.mp hat).symm.trans (isAt_iff.mp hat'))

/-- Changes to all records at two places commute. -/
theorem commute_modifyAll (hf : StaysAt file line f) (hg : StaysAt other otherLine g) :
    Function.Commute (modifyAll file line f) (modifyAll other otherLine g) := by
  intro records
  rw [modifyAll, modifyAll, modifyAll, modifyAll, List.map_map, List.map_map]
  refine List.map_congr_left fun r _ => ?_
  by_cases hat : r.isAt file line
  · have hnot := not_isAt_of_isAt hne hat
    have hnot' := not_isAt_of_isAt hne (hf r hat)
    simp [hat, hnot, hnot']
  · by_cases hat' : r.isAt other otherLine
    · have hnot := not_isAt_of_isAt hne.symm (hg r hat')
      simp [hat, hat', hnot]
    · simp [hat, hat']

/-- A change to the first record at one place commutes with one to all records at another. -/
theorem commute_modifyFirst_modifyAll (hf : StaysAt file line f) (hg : StaysAt other otherLine g) :
    Function.Commute (modifyFirst file line f) (modifyAll other otherLine g) := by
  intro records
  induction records with
  | nil => rfl
  | cons r rest ih =>
    have ih : modifyFirst file line f (modifyAll other otherLine g rest) =
        modifyAll other otherLine g (modifyFirst file line f rest) := ih
    by_cases hat : r.isAt file line
    · have hnot := not_isAt_of_isAt hne hat
      have hnot' := not_isAt_of_isAt hne (hf r hat)
      simp [modifyAll, modifyFirst, hat, hnot, hnot']
    · by_cases hat' : r.isAt other otherLine
      · have hnot := not_isAt_of_isAt hne.symm (hg r hat')
        simpa [modifyAll, modifyFirst, hat, hat', hnot] using ih
      · simpa [modifyAll, modifyFirst, hat, hat'] using ih

/-- Changes to the first records at two places commute. -/
theorem commute_modifyFirst (hf : StaysAt file line f) (hg : StaysAt other otherLine g) :
    Function.Commute (modifyFirst file line f) (modifyFirst other otherLine g) := by
  intro records
  induction records with
  | nil => rfl
  | cons r rest ih =>
    by_cases hat : r.isAt file line
    · have hnot := not_isAt_of_isAt hne hat
      have hnot' := not_isAt_of_isAt hne (hf r hat)
      simp [modifyFirst, hat, hnot, hnot']
    · by_cases hat' : r.isAt other otherLine
      · have hnot := not_isAt_of_isAt hne.symm (hg r hat')
        simp [modifyFirst, hat, hat', hnot]
      · simpa [modifyFirst, hat, hat'] using ih

/-- A change to all records at one place is not seen at another. -/
theorem find?_isAt_modifyAll_of_ne (hf : StaysAt file line f) (records : List CommentRecord) :
    (modifyAll file line f records).find? (·.isAt other otherLine) =
      records.find? (·.isAt other otherLine) := by
  induction records with
  | nil => rfl
  | cons r rest ih =>
    have ih : (modifyAll file line f rest).find? (·.isAt other otherLine) =
        rest.find? (·.isAt other otherLine) := ih
    by_cases hat : r.isAt file line
    · have hnot := not_isAt_of_isAt hne hat
      have hnot' := not_isAt_of_isAt hne (hf r hat)
      simpa [modifyAll, hat, hnot, hnot'] using ih
    · by_cases hat' : r.isAt other otherLine
      · simp [modifyAll, hat, hat']
      · simpa [modifyAll, hat, hat'] using ih

/-- A change to the first record at one place is not seen at another. -/
theorem find?_isAt_modifyFirst_of_ne (hf : StaysAt file line f) (records : List CommentRecord) :
    (modifyFirst file line f records).find? (·.isAt other otherLine) =
      records.find? (·.isAt other otherLine) := by
  induction records with
  | nil => rfl
  | cons r rest ih =>
    by_cases hat : r.isAt file line
    · have hnot := not_isAt_of_isAt hne hat
      have hnot' := not_isAt_of_isAt hne (hf r hat)
      simp [modifyFirst, hat, hnot, hnot']
    · by_cases hat' : r.isAt other otherLine
      · simp [modifyFirst, hat, hat']
      · simpa [modifyFirst, hat, hat'] using ih

end Different

/-! ### Links -/

/-- A record stays where it is when it gets a number. -/
theorem staysAt_withIssue (file : String) (line : UInt32) (number : UInt64) :
    StaysAt file line (·.withIssue number) :=
  fun _ => id

/-- A record stays where it is when it gets a text. -/
theorem staysAt_withText (file : String) (line : UInt32) (text : String) :
    StaysAt file line fun r => { r with text } :=
  fun _ => id

namespace StateStore

variable {records : List CommentRecord} {record other : CommentRecord}

/-- Linking a record that is in the list changes the records with its identity. -/
theorem linkRecord_eq_modifyFirst
    (h : (records.find? (·.isAt record.file record.line)).isSome) (number : UInt64) :
    linkRecord records record number =
      modifyFirst record.file record.line (fun r => { r with text := record.text })
        (modifyAll record.file record.line (·.withIssue number) records) :=
  if_pos (by simpa using h)

/-- Linking a record leaves those with another identity as they were. -/
theorem find?_linkRecord_of_ne (hne : record.identity ≠ other.identity)
    (h : (records.find? (·.isAt record.file record.line)).isSome) (number : UInt64) :
    (linkRecord records record number).find? (·.isAt other.file other.line) =
      records.find? (·.isAt other.file other.line) := by
  rw [linkRecord_eq_modifyFirst h, find?_isAt_modifyFirst_of_ne hne (staysAt_withText _ _ _),
    find?_isAt_modifyAll_of_ne hne (staysAt_withIssue _ _ _)]

/-- Two records of a list that have different identities are linked in any order. -/
theorem linkRecord_comm (hne : record.identity ≠ other.identity)
    (h : (records.find? (·.isAt record.file record.line)).isSome)
    (h' : (records.find? (·.isAt other.file other.line)).isSome) (number othersNumber : UInt64) :
    linkRecord (linkRecord records record number) other othersNumber =
      linkRecord (linkRecord records other othersNumber) record number := by
  have hother : ((linkRecord records record number).find?
      (·.isAt other.file other.line)).isSome := by
    rw [find?_linkRecord_of_ne hne h]
    exact h'
  have hrecord : ((linkRecord records other othersNumber).find?
      (·.isAt record.file record.line)).isSome := by
    rw [find?_linkRecord_of_ne hne.symm h']
    exact h
  rw [linkRecord_eq_modifyFirst hother, linkRecord_eq_modifyFirst h,
    linkRecord_eq_modifyFirst hrecord, linkRecord_eq_modifyFirst h']
  have htext (r : CommentRecord) := staysAt_withText r.file r.line r.text
  have hnumber (r : CommentRecord) (number : UInt64) := staysAt_withIssue r.file r.line number
  have hfirst := commute_modifyFirst hne (htext record) (htext other)
  have hall := commute_modifyAll hne (hnumber record number) (hnumber other othersNumber)
  have hmixed :=
    commute_modifyFirst_modifyAll hne (htext record) (hnumber other othersNumber)
  have hmixed' :=
    commute_modifyFirst_modifyAll hne.symm (htext other) (hnumber record number)
  exact ((Function.Commute.comp_left (hfirst.comp_right hmixed)
    (hmixed'.symm.comp_right hall)) records).symm

end StateStore

end TrackedComments

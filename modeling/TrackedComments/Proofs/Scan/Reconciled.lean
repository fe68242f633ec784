import TrackedComments.Proofs.Record.Remembered
import TrackedComments.Proofs.Scan.EveryLine
import TrackedComments.Proofs.Scan.Report

/-!
# Scanned records completed from a saved list

A scan builds all records anew, and what is saved gives them the numbers that no marker gives. Only
numbers change in this, and it does not help to do it twice: a number that has been remembered
belongs to a text without a marker, so it is remembered again.

## Main results

* `FileSource.reconcile_scanned`: what a saved list does to the records of a scan.
-/

namespace TrackedComments

open CommentRecord

/-- Each record keeps its place and all its fields but the number, for which there is one choice. -/
theorem forall₂_reconcile {fresh : List CommentRecord}
    (hmarks : ∀ r ∈ fresh, r.issueNumber = Marker.find? r.text.toList)
    (saved : List CommentRecord) :
    List.Forall₂
      (fun r r' => r' = r.withNumber r'.issueNumber ∧
        ∀ number, Numbered saved r number ↔ number = r'.issueNumber)
      fresh (reconcile fresh saved) := by
  rw [reconcile_eq_map, List.forall₂_map_right_iff, List.forall₂_same]
  intro r hr
  exact ⟨rfl, fun number => numbered_iff (hmarks r hr)⟩

/-- Lists that remember the same about all records complete them in the same way. -/
theorem reconcile_congr {fresh saved others : List CommentRecord}
    (h : ∀ r ∈ fresh, rememberedIssue others r.file r.line = rememberedIssue saved r.file r.line) :
    reconcile fresh others = reconcile fresh saved := by
  rw [reconcile_eq_map, reconcile_eq_map]
  refine List.map_congr_left fun r hr => ?_
  rw [h r hr]

namespace FileSource

variable {source : FileSource} {pattern : ScanPattern} {filter : FileFilter} {concurrency : Nat}
  {choices : Nat → Nat} {report : ScanReport}

/-- What a saved list does to the records of a scan. Each record keeps its place and all its fields
but the number, which follows the marker on its line or else the last saved record with its
identity. Records with other identities do not matter, nor does the order of saved records that have
distinct identities. Completing the records from what they have become gives the same again. -/
theorem reconcile_scanned
    (h : source.scanInOrder pattern filter concurrency choices = .ok report)
    (saved : List CommentRecord) :
    List.Forall₂
        (fun r r' => r' = r.withNumber r'.issueNumber ∧
          ∀ number, Numbered saved r number ↔ number = r'.issueNumber)
        report.records (reconcile report.records saved) ∧
      (∀ others, (∀ r ∈ report.records,
          others.filter (·.isAt r.file r.line) = saved.filter (·.isAt r.file r.line)) →
        reconcile report.records others = reconcile report.records saved) ∧
      (∀ others, others.Perm saved → (saved.map identity).Nodup →
        reconcile report.records others = reconcile report.records saved) ∧
      reconcile report.records (reconcile report.records saved) =
        reconcile report.records saved := by
  obtain ⟨files, -, hrecords, -⟩ := scanInOrder_eq_ok h
  have hmarks : ∀ r ∈ report.records, r.issueNumber = Marker.find? r.text.toList := by
    intro r hr
    rw [hrecords] at hr
    obtain ⟨file, -, hr⟩ := List.mem_flatMap.mp hr
    exact issueNumber_of_mem_recordsOf hr
  refine ⟨forall₂_reconcile hmarks saved, ?_, ?_, ?_⟩
  · intro others hsame
    exact reconcile_congr fun r hr => rememberedIssue_congr (hsame r hr)
  · intro others hperm hnodup
    exact reconcile_congr fun r _ => rememberedIssue_of_perm hperm hnodup r.file r.line
  · refine reconcile_of_subset hmarks ?_ (List.Subset.refl _)
    intro r hr r' hr' hid
    obtain ⟨fresh, hfresh, rfl⟩ := mem_reconcile.mp hr
    obtain ⟨fresh', hfresh', rfl⟩ := mem_reconcile.mp hr'
    rw [hrecords] at hfresh hfresh'
    rw [eq_of_identity_eq_of_mem hfresh hfresh' hid]

/-! ### A file that is listed twice -/

/-- A source that lists one of its files twice. -/
def repeating : FileSource where
  list _ := .ok ["a.ts", "b.ts", "a.ts"]
  read _ := .ok "x"

/-- Saved records, two of which have the identity of a comment of the source. -/
def overlapping : List CommentRecord :=
  [(CommentRecord.firstLine "a.ts" "x [GH-#3]").withIssue 3,
    (CommentRecord.firstLine "b.ts" "x [GH-#4]").withIssue 4,
    (CommentRecord.firstLine "a.ts" "y").withIssue 5]

/-- The last saved record with the identity gives its number, unless it carries a marker. A record
of a file that is not listed changes nothing. -/
theorem reconcile_repeating :
    ∃ report, repeating.scanInOrder .everyLine .standard 2 (fun rounds => rounds) = .ok report ∧
      report.records = [.firstLine "a.ts" "x", .firstLine "b.ts" "x", .firstLine "a.ts" "x"] ∧
      reconcile report.records overlapping =
        [(CommentRecord.firstLine "a.ts" "x").withIssue 5, .firstLine "b.ts" "x",
          (CommentRecord.firstLine "a.ts" "x").withIssue 5] ∧
      Numbered overlapping (.firstLine "a.ts" "x") (some 5) ∧
      Numbered overlapping (.firstLine "b.ts" "x") none ∧
      reconcile report.records (CommentRecord.firstLine "c.ts" "x [GH-#6]" :: overlapping) =
        reconcile report.records overlapping ∧
      reconcile report.records (reconcile report.records overlapping) =
        reconcile report.records overlapping := by
  have hscan : ∃ report,
      repeating.scanInOrder .everyLine .standard 2 (fun rounds => rounds) = .ok report := by
    rw [scanInOrder_eq]
    exact ⟨_, rfl⟩
  obtain ⟨report, hscan⟩ := hscan
  have hrecords : report.records =
      [.firstLine "a.ts" "x", .firstLine "b.ts" "x", .firstLine "a.ts" "x"] := by
    obtain ⟨files, hlist, hrecords, -⟩ := scanInOrder_eq_ok hscan
    obtain rfl : ["a.ts", "b.ts", "a.ts"] = files := Except.ok.inj hlist
    have hx (file : String) : repeating.recordsOf .everyLine file = [.firstLine file "x"] :=
      (recordsOf_of_read rfl).trans (ScanPattern.scanContent_everyLine file (by decide) (by decide)
        (by decide) (by decide))
    simp [hrecords, hx]
  obtain ⟨hrows, hothers, -, hagain⟩ := reconcile_scanned hscan overlapping
  have hreconciled : reconcile report.records overlapping =
      [(CommentRecord.firstLine "a.ts" "x").withIssue 5, .firstLine "b.ts" "x",
        (CommentRecord.firstLine "a.ts" "x").withIssue 5] := by
    rw [hrecords]
    decide +kernel
  rw [hreconciled, hrecords] at hrows
  simp only [List.forall₂_cons] at hrows
  refine ⟨report, hscan, hrecords, hreconciled, (hrows.1.2 _).mpr rfl, (hrows.2.1.2 _).mpr ?_,
    hothers _ ?_, hagain⟩
  · decide +kernel
  · rw [hrecords]
    decide +kernel

end FileSource

end TrackedComments

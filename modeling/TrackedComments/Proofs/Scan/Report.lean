import Mathlib.Data.List.Nodup
import TrackedComments.Proofs.Record
import TrackedComments.Proofs.Scan.Content
import TrackedComments.Proofs.Scan.Window
import TrackedComments.Scan.Report

/-!
# What a scan reports

A scan that lists its files reports the records of each file in turn, whatever the number of reads
at a time and the order in which they complete. A file is reported as failed exactly if it has no
text.

## Main results

* `FileSource.scanInOrder_eq`: the report of a scan, which no schedule shows in.
* `FileSource.scanInOrder_eq_ok`: its records and its failed files.
* `FileSource.eq_of_identity_eq_of_mem`: a comment is scanned as one record.
* `FileSource.nodup_identity_records`: the records have pairwise distinct identities if no file is
  listed twice.
-/

namespace TrackedComments.FileSource

open CommentRecord

/-- No schedule shows in the report of a scan. -/
theorem scanInOrder_eq (source : FileSource) (pattern : ScanPattern) (filter : FileFilter)
    (concurrency : Nat) (choices : Nat → Nat) :
    source.scanInOrder pattern filter concurrency choices =
      match source.list filter with
      | .error fault => .error (.scan fault.message)
      | .ok files =>
        .ok (.ofOutcomes (files.map fun file => (file, source.scanFile pattern file))) := by
  unfold scanInOrder
  cases source.list filter with
  | error fault => rfl
  | ok files => simp only [readAll_eq_map (Nat.le_max_right concurrency 1)]

/-- A file that is read has the records of its content. -/
theorem recordsOf_of_read {source : FileSource} {pattern : ScanPattern} {file text : String}
    (h : source.read file = .ok text) :
    source.recordsOf pattern file = pattern.scanContent file text := by
  rw [recordsOf, scanFile, h]
  rfl

/-- A file that cannot be read has no records. -/
theorem recordsOf_of_read_error {source : FileSource} {pattern : ScanPattern} {file : String}
    {fault : SourceFault} (h : source.read file = .error fault) :
    source.recordsOf pattern file = [] := by
  rw [recordsOf, scanFile, h]
  rfl

/-- A record of a file is one of its content. -/
theorem mem_recordsOf {source : FileSource} {pattern : ScanPattern} {file : String}
    {r : CommentRecord} :
    r ∈ source.recordsOf pattern file ↔
      ∃ text, source.read file = .ok text ∧ r ∈ pattern.scanContent file text := by
  cases hread : source.read file with
  | error fault => simp [recordsOf_of_read_error hread]
  | ok text => simp [recordsOf_of_read hread]

/-- The records of a file are in that file. -/
theorem file_of_mem_recordsOf {source : FileSource} {pattern : ScanPattern} {file : String}
    {r : CommentRecord} (h : r ∈ source.recordsOf pattern file) : r.file = file := by
  obtain ⟨text, -, hr⟩ := mem_recordsOf.mp h
  exact ScanPattern.file_of_mem hr

/-- The records and the failed files of a scan. -/
theorem scanInOrder_eq_ok {source : FileSource} {pattern : ScanPattern} {filter : FileFilter}
    {concurrency : Nat} {choices : Nat → Nat} {report : ScanReport}
    (h : source.scanInOrder pattern filter concurrency choices = .ok report) :
    ∃ files, source.list filter = .ok files ∧
      report.records = files.flatMap (source.recordsOf pattern) ∧
      ∀ file, file ∈ report.failedFiles ↔
        file ∈ files ∧ ∃ fault, source.read file = .error fault := by
  rw [scanInOrder_eq] at h
  split at h
  · simp at h
  · rename_i files hlist
    obtain rfl := Except.ok.inj h
    refine ⟨files, hlist, ?_, fun file => ?_⟩
    · simp only [ScanReport.ofOutcomes, List.flatMap_map]
      rfl
    · simp only [ScanReport.ofOutcomes, List.filterMap_map, List.mem_filterMap]
      constructor
      · rintro ⟨file', hmem, hfailed⟩
        cases hread : source.read file' with
        | ok text => simp [scanFile, hread, Except.toBool] at hfailed
        | error fault =>
          obtain rfl : file' = file := by simpa [scanFile, hread, Except.toBool] using hfailed
          exact ⟨hmem, fault, hread⟩
      · rintro ⟨hmem, fault, hread⟩
        exact ⟨file, hmem, by simp [scanFile, hread, Except.toBool]⟩

/-- A scan that succeeds reports the records of the listed files, and which of them cannot be
read. -/
theorem scan_eq_ok {source : FileSource} {pattern : ScanPattern} {filter : FileFilter}
    {concurrency : Nat} {report : ScanReport}
    (h : source.scan pattern filter concurrency = .ok report) :
    ∃ files, source.list filter = .ok files ∧
      report.records = files.flatMap (source.recordsOf pattern) ∧
      ∀ file, file ∈ report.failedFiles ↔
        file ∈ files ∧ ∃ fault, source.read file = .error fault :=
  scanInOrder_eq_ok h

/-- The number of a scanned record is that of the marker in its text. -/
theorem issueNumber_of_mem_recordsOf {source : FileSource} {pattern : ScanPattern} {file : String}
    {r : CommentRecord} (h : r ∈ source.recordsOf pattern file) :
    r.issueNumber = Marker.find? r.text.toList := by
  obtain ⟨text, -, hr⟩ := mem_recordsOf.mp h
  exact ScanPattern.issueNumber_of_mem hr

/-- The records of a file have pairwise distinct identities. -/
theorem nodup_identity_recordsOf (source : FileSource) (pattern : ScanPattern) (file : String) :
    ((source.recordsOf pattern file).map identity).Nodup := by
  cases hread : source.read file with
  | error fault =>
    rw [recordsOf_of_read_error hread]
    exact List.nodup_nil
  | ok text =>
    rw [recordsOf_of_read hread]
    exact ScanPattern.nodup_identity_scanContent pattern file text

/-- A comment is scanned as one record, even if its file is listed twice. -/
theorem eq_of_identity_eq_of_mem {source : FileSource} {pattern : ScanPattern}
    {files : List String} {a b : CommentRecord} (ha : a ∈ files.flatMap (source.recordsOf pattern))
    (hb : b ∈ files.flatMap (source.recordsOf pattern)) (hid : a.identity = b.identity) :
    a = b := by
  obtain ⟨file, -, ha⟩ := List.mem_flatMap.mp ha
  obtain ⟨file', -, hb⟩ := List.mem_flatMap.mp hb
  obtain rfl : file = file' :=
    (file_of_mem_recordsOf ha).symm.trans ((congrArg Prod.fst hid).trans (file_of_mem_recordsOf hb))
  exact eq_of_identity_eq (source.nodup_identity_recordsOf pattern file) ha hb hid

/-- The records have pairwise distinct identities if no file is listed twice. -/
theorem nodup_identity_records {files : List String} (h : files.Nodup) (source : FileSource)
    (pattern : ScanPattern) : ((files.flatMap (source.recordsOf pattern)).map identity).Nodup := by
  rw [List.map_flatMap, List.nodup_flatMap]
  refine ⟨fun file _ => source.nodup_identity_recordsOf pattern file,
    h.imp fun {file file'} hne => ?_⟩
  refine List.disjoint_left.mpr ?_
  intro id hid hid'
  obtain ⟨r, hr, rfl⟩ := List.mem_map.mp hid
  obtain ⟨r', hr', heq⟩ := List.mem_map.mp hid'
  refine hne ?_
  rw [← file_of_mem_recordsOf hr, ← file_of_mem_recordsOf hr']
  exact (congrArg Prod.fst heq).symm

/-- The records of one file. -/
theorem filter_file_records {files : List String} (h : files.Nodup) (source : FileSource)
    (pattern : ScanPattern) (file : String) :
    (files.flatMap (source.recordsOf pattern)).filter (·.file == file) =
      if file ∈ files then source.recordsOf pattern file else [] := by
  have hone (other : String) : (source.recordsOf pattern other).filter (·.file == file) =
      if other = file then source.recordsOf pattern file else [] := by
    split
    · rename_i heq
      subst heq
      exact List.filter_eq_self.mpr fun r hr => by simp [file_of_mem_recordsOf hr]
    · rename_i hne
      exact List.filter_eq_nil_iff.mpr fun r hr => by simp [file_of_mem_recordsOf hr, hne]
  induction files with
  | nil => rfl
  | cons other files ih =>
    obtain ⟨hnot, hnodup⟩ := List.nodup_cons.mp h
    rw [List.flatMap_cons, List.filter_append, hone, ih hnodup]
    by_cases heq : other = file
    · subst heq
      simp [hnot]
    · simp [heq, Ne.symm heq]

/-- The records ascend by file if the files do. -/
theorem pairwise_file_records {files : List String} (h : files.Pairwise (· ≤ ·))
    (source : FileSource) (pattern : ScanPattern) :
    (files.flatMap (source.recordsOf pattern)).Pairwise (·.file ≤ ·.file) := by
  rw [List.pairwise_flatMap]
  refine ⟨fun file _ => ?_, h.imp fun {file other} hle r hr r' hr' => ?_⟩
  · refine List.pairwise_iff_forall_sublist.mpr fun hsub => ?_
    have hfile := file_of_mem_recordsOf (hsub.subset List.mem_cons_self)
    have hfile' := file_of_mem_recordsOf (hsub.subset (List.mem_cons_of_mem _ List.mem_cons_self))
    exact (hfile.trans hfile'.symm) ▸ String.le_refl _
  · rw [file_of_mem_recordsOf hr, file_of_mem_recordsOf hr']
    exact hle

end TrackedComments.FileSource

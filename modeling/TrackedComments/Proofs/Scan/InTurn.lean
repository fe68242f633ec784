import TrackedComments.Proofs.Scan.EveryLine
import TrackedComments.Proofs.Scan.Report

/-!
# Scanning one file after the other

A scan gives the report of a loop that reads the files in turn. If the source lists its files in
ascending order, each once, the records ascend by file and line, so that no identity occurs twice;
and when a file loses its text, its own records vanish from the report and no others.

## Main results

* `FileSource.scanInOrder_eq_scanInTurn`: a scan is the loop.
* `FileSource.scan_ascending`: the report on files in ascending order.
* `FileSource.scan_threeFiles`: such a report on three files, of which one has no text.
-/

namespace TrackedComments

open CommentRecord

/-- Whether a record comes before another one, by file and then by line. -/
def CommentRecord.Precedes (r r' : CommentRecord) : Prop :=
  r.file < r'.file ∨ r.file = r'.file ∧ r.line < r'.line

/-- A record that precedes another one has another identity. -/
theorem CommentRecord.Precedes.identity_ne {r r' : CommentRecord} (h : r.Precedes r') :
    r.identity ≠ r'.identity := by
  intro heq
  obtain ⟨hfile, hline⟩ := Prod.mk.inj heq
  rcases h with hlt | ⟨-, hlt⟩
  · exact String.ne_of_lt hlt hfile
  · exact UInt32.ne_of_lt hlt hline

namespace FileSource

/-! ### The loop -/

/-- The report of a loop that reads files one after the other. -/
def scanInTurn (source : FileSource) (pattern : ScanPattern) : List String → ScanReport
  | [] => ⟨[], 0, []⟩
  | file :: rest =>
    let report := source.scanInTurn pattern rest
    match source.read file with
    | .ok text =>
      { report with
        records := pattern.scanContent file text ++ report.records
        filesScanned := report.filesScanned + 1 }
    | .error _ =>
      { report with
        filesScanned := report.filesScanned + 1
        failedFiles := file :: report.failedFiles }

variable {source : FileSource} {pattern : ScanPattern} {filter : FileFilter} {files : List String}

/-- The report of the outcomes is the report of a scan that reads one file after the other. -/
theorem ofOutcomes_eq_scanInTurn (source : FileSource) (pattern : ScanPattern)
    (files : List String) :
    .ofOutcomes (files.map fun file => (file, source.scanFile pattern file)) =
      source.scanInTurn pattern files := by
  induction files with
  | nil => rfl
  | cons file rest ih =>
    rw [scanInTurn, ← ih]
    cases hread : source.read file with
    | ok text => simp [ScanReport.ofOutcomes, scanFile, hread, Except.toOption, Except.toBool]
    | error fault => simp [ScanReport.ofOutcomes, scanFile, hread, Except.toOption, Except.toBool]

/-- A scan is the loop, whatever the number of reads at a time and the order in which they complete.
-/
theorem scanInOrder_eq_scanInTurn (hlist : source.list filter = .ok files) (pattern : ScanPattern)
    (concurrency : Nat) (choices : Nat → Nat) :
    source.scanInOrder pattern filter concurrency choices =
      .ok (source.scanInTurn pattern files) := by
  rw [scanInOrder_eq, hlist]
  exact congrArg Except.ok (ofOutcomes_eq_scanInTurn source pattern files)

/-! ### What the loop reports -/

/-- The records are those of the files, one file after the other. -/
theorem records_scanInTurn (source : FileSource) (pattern : ScanPattern) (files : List String) :
    (source.scanInTurn pattern files).records = files.flatMap (source.recordsOf pattern) := by
  rw [← ofOutcomes_eq_scanInTurn, ScanReport.ofOutcomes, List.flatMap_map]
  rfl

/-- The failed files are those that cannot be read. -/
theorem failedFiles_scanInTurn (source : FileSource) (pattern : ScanPattern)
    (files : List String) :
    (source.scanInTurn pattern files).failedFiles =
      files.filter fun file => !(source.read file).isOk := by
  induction files with
  | nil => rfl
  | cons file rest ih =>
    rw [scanInTurn]
    cases hread : source.read file with
    | ok text => simp [hread, Except.isOk, Except.toBool, ih]
    | error fault => simp [hread, Except.isOk, Except.toBool, ih]

/-- All files are counted. -/
theorem filesScanned_scanInTurn (source : FileSource) (pattern : ScanPattern)
    (files : List String) : (source.scanInTurn pattern files).filesScanned = files.length := by
  rw [← ofOutcomes_eq_scanInTurn, ScanReport.ofOutcomes, List.length_map]

/-- The records ascend by file and line if the files ascend. -/
theorem pairwise_precedes_records (h : files.Pairwise (· < ·)) (source : FileSource)
    (pattern : ScanPattern) :
    (files.flatMap (source.recordsOf pattern)).Pairwise Precedes := by
  rw [List.pairwise_flatMap]
  refine ⟨fun file _ => ?_, h.imp fun {file other} hlt r hr r' hr' => .inl ?_⟩
  · cases hread : source.read file with
    | error fault =>
      rw [recordsOf_of_read_error hread]
      exact .nil
    | ok text =>
      rw [recordsOf_of_read hread]
      refine (ScanPattern.pairwise_line_scanContent pattern file text).imp_of_mem ?_
      intro r r' hr hr' hlt
      exact .inr ⟨(ScanPattern.file_of_mem hr).trans (ScanPattern.file_of_mem hr').symm, hlt⟩
  · rw [file_of_mem_recordsOf hr, file_of_mem_recordsOf hr']
    exact hlt

/-! ### Files that lose their text -/

/-- The source in which one file has no text. -/
def withoutText (source : FileSource) (file : String) (fault : SourceFault) : FileSource :=
  { source with read := fun other => if other = file then .error fault else source.read other }

/-- A file that cannot be read has no records, and the others have theirs. -/
theorem recordsOf_withoutText (source : FileSource) (pattern : ScanPattern) (file : String)
    (fault : SourceFault) (other : String) :
    (source.withoutText file fault).recordsOf pattern other =
      (source.recordsOf pattern other).filter (·.file != file) := by
  by_cases heq : other = file
  · subst heq
    have hread : (source.withoutText other fault).read other = .error fault := if_pos rfl
    rw [recordsOf_of_read_error hread, eq_comm, List.filter_eq_nil_iff]
    intro r hr
    simp [file_of_mem_recordsOf hr]
  · have hread : (source.withoutText file fault).read other = source.read other := if_neg heq
    have hrecords : (source.withoutText file fault).recordsOf pattern other =
        source.recordsOf pattern other := by
      rw [recordsOf, scanFile, hread]
      rfl
    rw [hrecords, eq_comm, List.filter_eq_self]
    intro r hr
    simp [file_of_mem_recordsOf hr, heq]

/-- The records of a file that loses its text vanish from the report, and no others. -/
theorem records_withoutText (source : FileSource) (pattern : ScanPattern) (files : List String)
    (file : String) (fault : SourceFault) :
    ((source.withoutText file fault).scanInTurn pattern files).records =
      (source.scanInTurn pattern files).records.filter (·.file != file) := by
  rw [records_scanInTurn, records_scanInTurn, List.filter_flatMap]
  exact List.flatMap_congr fun other _ => recordsOf_withoutText source pattern file fault other

/-! ### Scans of ascending files -/

/-- The report on files in ascending order, whatever the number of reads at a time and the order in
which they complete: that of the loop, with the records in ascending order. A file that loses its
text takes its own records with it and no others. -/
theorem scan_ascending (hlist : source.list filter = .ok files) (hfiles : files.Pairwise (· < ·))
    (pattern : ScanPattern) (concurrency : Nat) (choices : Nat → Nat) :
    ∃ report, source.scanInOrder pattern filter concurrency choices = .ok report ∧
      report = source.scanInTurn pattern files ∧
      report.records = (files.flatMap fun file =>
        match source.read file with
        | .ok text => pattern.scanContent file text
        | .error _ => []) ∧
      report.failedFiles = files.filter (fun file => !(source.read file).isOk) ∧
      report.filesScanned = files.length ∧
      report.records.Pairwise Precedes ∧
      (report.records.map identity).Nodup ∧
      ∀ file fault concurrency' choices', ∃ report',
        (source.withoutText file fault).scanInOrder pattern filter concurrency' choices' =
          .ok report' ∧
        report'.records = report.records.filter (·.file != file) := by
  have hrecords := records_scanInTurn source pattern files
  have hprecedes : (source.scanInTurn pattern files).records.Pairwise Precedes := by
    rw [hrecords]
    exact pairwise_precedes_records hfiles source pattern
  refine ⟨_, scanInOrder_eq_scanInTurn hlist pattern concurrency choices, rfl, ?_,
    failedFiles_scanInTurn source pattern files, filesScanned_scanInTurn source pattern files,
    hprecedes, ?_, fun file fault concurrency' choices' => ?_⟩
  · rw [hrecords]
    refine List.flatMap_congr fun file _ => ?_
    split
    · rename_i hread
      exact recordsOf_of_read hread
    · rename_i hread
      exact recordsOf_of_read_error hread
  · rw [List.Nodup, List.pairwise_map]
    exact hprecedes.imp Precedes.identity_ne
  · have hlist' : (source.withoutText file fault).list filter = .ok files := hlist
    exact ⟨_, scanInOrder_eq_scanInTurn hlist' pattern concurrency' choices',
      records_withoutText source pattern files file fault⟩

/-- Three files of one line each. The one in the middle has no text. -/
def threeFiles : FileSource where
  list _ := .ok ["a.ts", "b.ts", "c.ts"]
  read file := if file = "b.ts" then .error (.unreadable file) else .ok "x"

/-- The report on the three files, with two reads at a time. -/
theorem scan_threeFiles :
    threeFiles.list .standard = .ok ["a.ts", "b.ts", "c.ts"] ∧
      ["a.ts", "b.ts", "c.ts"].Pairwise (· < ·) ∧
      ∃ report, threeFiles.scanInOrder .everyLine .standard 2 (fun rounds => rounds) = .ok report ∧
        report.records = [.firstLine "a.ts" "x", .firstLine "c.ts" "x"] ∧
        report.failedFiles = ["b.ts"] ∧ report.filesScanned = 3 ∧
        ∃ report', (threeFiles.withoutText "c.ts" (.binary "c.ts")).scanInOrder .everyLine .standard
            0 (fun _ => 1) = .ok report' ∧
          report'.records = [.firstLine "a.ts" "x"] := by
  have hlist : threeFiles.list .standard = .ok ["a.ts", "b.ts", "c.ts"] := rfl
  have hfiles : ["a.ts", "b.ts", "c.ts"].Pairwise (· < ·) := by decide
  have hx (file : String) : ScanPattern.everyLine.scanContent file "x" = [.firstLine file "x"] :=
    ScanPattern.scanContent_everyLine file (by decide) (by decide) (by decide) (by decide)
  obtain ⟨report, hscan, -, hrecords, hfailed, hscanned, -, -, hwithout⟩ :=
    scan_ascending hlist hfiles .everyLine 2 fun rounds => rounds
  obtain ⟨report', hscan', hrecords'⟩ := hwithout "c.ts" (.binary "c.ts") 0 fun _ => 1
  have hboth : report.records = [.firstLine "a.ts" "x", .firstLine "c.ts" "x"] := by
    simp [hrecords, threeFiles, hx]
  refine ⟨hlist, hfiles, report, hscan, hboth, ?_, hscanned, report', hscan', ?_⟩
  · simp [hfailed, threeFiles, Except.isOk, Except.toBool]
  · simp [hrecords', hboth, CommentRecord.firstLine]

end FileSource

end TrackedComments

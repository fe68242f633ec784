import TrackedComments.Scan.Window

/-!
# Scans

A scan looks at all files that a source lists and puts their records together. A file without text
is reported and contributes no records; only a source that cannot list its files makes a scan fail.
-/

namespace TrackedComments

/-- The result of a scan. -/
structure ScanReport where
  /-- All records, by file in the order of the source and by line within a file. -/
  records : List CommentRecord
  /-- How many files the source has listed. -/
  filesScanned : Nat
  /-- The files without text. -/
  failedFiles : List String
  deriving DecidableEq, Inhabited

/-- The report on the outcomes of files. -/
def ScanReport.ofOutcomes (outcomes : List (String × ScanOutcome)) : ScanReport :=
  { records := outcomes.flatMap fun (_, outcome) => outcome.toOption.getD []
    filesScanned := outcomes.length
    failedFiles := outcomes.filterMap fun (file, outcome) =>
      if outcome.toBool then none else some file }

namespace FileSource

/-- The records of a file, or why it has no text. -/
def scanFile (source : FileSource) (pattern : ScanPattern) (file : String) : ScanOutcome :=
  match source.read file with
  | .ok text => .ok (pattern.scanContent file text)
  | .error fault => .error fault

/-- The records of a file; none if it has no text. -/
def recordsOf (source : FileSource) (pattern : ScanPattern) (file : String) :
    List CommentRecord :=
  (source.scanFile pattern file).toOption.getD []

/-- Scans a source with reads that complete in a given order. No reads at a time counts as one. -/
def scanInOrder (source : FileSource) (pattern : ScanPattern) (filter : FileFilter)
    (concurrency : Nat) (choices : Nat → Nat) : Except Error ScanReport :=
  match source.list filter with
  | .error fault => .error (.scan fault.message)
  | .ok files =>
    .ok (.ofOutcomes (readAll (max concurrency 1) (source.scanFile pattern) choices files))

/-- Scans a source. -/
def scan (source : FileSource) (pattern : ScanPattern) (filter : FileFilter)
    (concurrency : Nat) : Except Error ScanReport :=
  source.scanInOrder pattern filter concurrency fun _ => 0

end FileSource

end TrackedComments

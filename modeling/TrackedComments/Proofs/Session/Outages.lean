import TrackedComments.Proofs.Session.Progress

/-!
# Files that cannot be read for a while

A scan saves what it reports, and a file that cannot be read reports nothing. So the numbers that
were known for its comments from the saved list alone are gone once the file has been missed,
although nobody has taken a marker away: a number survives only on the line itself, or if no scan
misses the file.

## Main results

* `Session.rememberedIssue_of_scan`, `Session.rememberedIssue_of_missed`: what is remembered after a
  scan that reads a file, and after one that does not.
* `Session.reported_number_iff`: exactly when a later scan reports a number that was saved.
* `Session.link_lost_when_missed`: a number that is lost.
-/

namespace TrackedComments

open CommentRecord

/-- A source that lists the same files as another one, some of which cannot be read. -/
structure FileSource.IsOutageOf (source base : FileSource) (filter : FileFilter) : Prop where
  list : source.list filter = base.list filter
  read : ∀ file, source.read file = base.read file ∨ ∃ fault, source.read file = .error fault

namespace Session

/-- Scans of one source, in each of which any of its files may be unreadable. -/
def Surroundings.outages (base : FileSource) (filter : FileFilter) : Surroundings where
  scans _ source := source.IsOutageOf base filter
  edits _ _ := False

/-- Whether an event is a scan that succeeds. -/
def Event.IsScan (event : Event) : Prop :=
  ∃ source report, event = .scanned source (.ok report)

/-- Whether an event is a scan that could not read a file. -/
def Event.Misses (event : Event) (file : String) : Prop :=
  ∃ source report, event = .scanned source (.ok report) ∧ file ∈ report.failedFiles

variable {base source : FileSource} {s s' : Session} {report : ScanReport} {files : List String}
  {file content : String} {fresh : CommentRecord}

/-- A fresh record is the only one of its line. -/
theorem fresh_eq {p : ScanPattern} {r : CommentRecord} (hfresh : fresh ∈ p.scanContent file content)
    (hr : r ∈ p.scanContent file content) (hat : r.isAt file fresh.line) : r = fresh :=
  ScanPattern.scanContent_eq_of_line_eq hr hfresh (isAt_iff_file_line.mp hat).2

/-- What a scan that reads a file reports for a line of it. -/
theorem records_of_scan (hfile : file ∈ files) (hread : source.read file = .ok content)
    {p : ScanPattern} (hfresh : fresh ∈ p.scanContent file content)
    {saved records : List CommentRecord}
    (hrecords : records = reconcile (files.flatMap (source.recordsOf p)) saved) :
    fresh.withNumber (fresh.issueNumber.or (rememberedIssue saved file fresh.line)) ∈ records ∧
      ∀ r ∈ records, r.isAt file fresh.line →
        r = fresh.withNumber (fresh.issueNumber.or (rememberedIssue saved file fresh.line)) := by
  have hname := ScanPattern.file_of_mem hfresh
  constructor
  · rw [hrecords, mem_reconcile]
    exact ⟨fresh, List.mem_flatMap.mpr ⟨file, hfile, FileSource.mem_recordsOf.mpr
      ⟨content, hread, hfresh⟩⟩, by rw [hname]⟩
  · intro r hr hat
    rw [hrecords, mem_reconcile] at hr
    obtain ⟨fresh', hfresh', rfl⟩ := hr
    obtain ⟨file', -, hmem⟩ := List.mem_flatMap.mp hfresh'
    have hfile' := FileSource.file_of_mem_recordsOf hmem
    obtain ⟨hat₁, -⟩ := isAt_iff_file_line.mp hat
    have heq : file' = file := hfile'.symm.trans hat₁
    subst heq
    obtain ⟨text, htext, hmem⟩ := FileSource.mem_recordsOf.mp hmem
    obtain rfl : text = content := Except.ok.inj (htext.symm.trans hread)
    obtain rfl := fresh_eq hfresh hmem hat
    rw [hname]

/-- A scan that reads a file remembers what was remembered, for a line without a marker. -/
theorem rememberedIssue_of_scan (hfile : file ∈ files) (hread : source.read file = .ok content)
    {p : ScanPattern} (hfresh : fresh ∈ p.scanContent file content)
    (hmarker : fresh.issueNumber = none) {saved records : List CommentRecord}
    (hrecords : records = reconcile (files.flatMap (source.recordsOf p)) saved) :
    rememberedIssue records file fresh.line = rememberedIssue saved file fresh.line := by
  obtain ⟨hmem, hunique⟩ := records_of_scan hfile hread hfresh hrecords
  have hat : fresh.isAt file fresh.line :=
    isAt_iff_file_line.mpr ⟨ScanPattern.file_of_mem hfresh, rfl⟩
  have hnone : fresh.hasMarker = false := by
    rw [hasMarker, ← ScanPattern.issueNumber_of_mem hfresh, hmarker]
    rfl
  rw [rememberedIssue_of_forall hmem hat hunique]
  simp [withNumber, hasMarker, hmarker] at hnone ⊢
  simp [hnone]

/-- A scan that misses a file remembers nothing about it. -/
theorem rememberedIssue_of_missed {fault : SourceFault} (hread : source.read file = .error fault)
    {p : ScanPattern} {line : UInt32} {saved records : List CommentRecord}
    (hrecords : records = reconcile (files.flatMap (source.recordsOf p)) saved) :
    rememberedIssue records file line = none := by
  refine rememberedIssue_eq_none fun r hr hat => ?_
  rw [hrecords, mem_reconcile] at hr
  obtain ⟨fresh, hfresh, rfl⟩ := hr
  obtain ⟨file', -, hmem⟩ := List.mem_flatMap.mp hfresh
  have heq : file' = file :=
    (FileSource.file_of_mem_recordsOf hmem).symm.trans (isAt_iff_file_line.mp hat).1
  subst heq
  obtain ⟨text, htext, -⟩ := FileSource.mem_recordsOf.mp hmem
  rw [hread] at htext
  simp at htext

/-- A step that is a scan, opened. -/
theorem scan_of_step {env : Surroundings}
    (h : Step env s (.scanned source (.ok report)) s') :
    env.scans s.files source ∧ ∃ files, source.list s.workspace.filter = .ok files ∧
      report.records =
        reconcile (files.flatMap (source.recordsOf s.workspace.pattern)) s.saved ∧
      (∀ file, file ∈ report.failedFiles ↔
        file ∈ files ∧ ∃ fault, source.read file = .error fault) ∧
      s'.saved = report.records := by
  cases h with
  | scan hsource hscan =>
    obtain ⟨hreport, hsave, rfl⟩ := Workspace.scan_eq_ok hscan.scan_eq
    obtain ⟨files, hlist, hrecords, hfailed⟩ := Workspace.report_eq_ok hreport
    exact ⟨hsource, files, hlist, hrecords, hfailed, StateStore.load_of_save_ok hsave⟩

/-- What is remembered about a line without a marker after scans of one source: what was remembered
before, if none of them missed the file. -/
theorem rememberedIssue_of_run {s₀ s₁ : Session} {events : List Event}
    (hlist : base.list s₀.workspace.filter = .ok files) (hfile : file ∈ files)
    (hread : base.read file = .ok content)
    (hfresh : fresh ∈ s₀.workspace.pattern.scanContent file content)
    (hmarker : fresh.issueNumber = none) (hscans : ∀ e ∈ events, e.IsScan)
    (hrun : Run (.outages base s₀.workspace.filter) s₀ events s₁) (number : UInt64) :
    rememberedIssue s₁.saved file fresh.line = some number ↔
      rememberedIssue s₀.saved file fresh.line = some number ∧ ∀ e ∈ events, ¬ e.Misses file := by
  induction hrun with
  | nil => simp
  | snoc hrun hstep ih =>
    rename_i s₁ s₂ events event
    have hih := ih fun e he => hscans e (List.mem_append_left _ he)
    obtain ⟨source, report, rfl⟩ := hscans event (List.mem_append_right _ List.mem_cons_self)
    have hsetup := hrun.sameSetup
    obtain ⟨houtage, files', hlist', hrecords, hfailed, hsaved⟩ := scan_of_step hstep
    obtain rfl : files' = files := by
      rw [hsetup.filter, houtage.list, hlist] at hlist'
      exact (Except.ok.inj hlist').symm
    rw [hsetup.pattern] at hrecords
    rw [hsaved]
    simp only [List.mem_append, List.mem_singleton, or_imp, forall_and, forall_eq]
    rcases houtage.read file with hok | ⟨fault, hfault⟩
    · have hnot : ¬ (Event.scanned source (.ok report)).Misses file := by
        rintro ⟨_, _, heq, hmissed⟩
        obtain ⟨-, heq⟩ := Event.scanned.inj heq
        obtain rfl := Except.ok.inj heq
        obtain ⟨-, fault, hfault⟩ := (hfailed file).mp hmissed
        rw [hok, hread] at hfault
        simp at hfault
      rw [rememberedIssue_of_scan hfile (hok.trans hread) hfresh hmarker hrecords, hih]
      simp [hnot]
    · have hmissed : (Event.scanned source (.ok report)).Misses file :=
        ⟨source, report, rfl, (hfailed file).mpr ⟨hfile, fault, hfault⟩⟩
      rw [rememberedIssue_of_missed hfault hrecords]
      simp [hmissed]

/-- A record that a scan reports stands on a line that the pattern takes for a comment. -/
theorem exists_fresh_of_scan (hread : source.read file = .ok content) {p : ScanPattern}
    {saved records : List CommentRecord} {line : UInt32} {r : CommentRecord}
    (hrecords : records = reconcile (files.flatMap (source.recordsOf p)) saved) (hr : r ∈ records)
    (hat : r.isAt file line) : ∃ fresh ∈ p.scanContent file content, fresh.line = line := by
  rw [hrecords, mem_reconcile] at hr
  obtain ⟨fresh, hfresh, rfl⟩ := hr
  obtain ⟨file', -, hmem⟩ := List.mem_flatMap.mp hfresh
  obtain ⟨hfile, hline⟩ := isAt_iff_file_line.mp hat
  have heq : file' = file := (FileSource.file_of_mem_recordsOf hmem).symm.trans hfile
  subst heq
  obtain ⟨text, htext, hmem⟩ := FileSource.mem_recordsOf.mp hmem
  obtain rfl : text = content := Except.ok.inj (htext.symm.trans hread)
  exact ⟨fresh, hmem, hline⟩

/-- A number that is saved for a comment is reported by a later scan that reads the file exactly if
its line is still a comment and carries the number in a marker, or if the number was known from the
saved list, the line carries no marker, and no scan in between has missed the file. All records that
are reported for the comment are the same. -/
theorem reported_number_iff {s₀ s₁ s₂ : Session} {events : List Event} {held : CommentRecord}
    {line : UInt32} {number : UInt64} (hlist : base.list s₀.workspace.filter = .ok files)
    (hfile : file ∈ files) (hread : base.read file = .ok content)
    (hheld : savedRecord? s₀.saved file line = some held)
    (hnumber : held.issueNumber = some number) (hscans : ∀ e ∈ events, e.IsScan)
    (hrun : Run (.outages base s₀.workspace.filter) s₀ events s₁)
    (hlast : Step (.outages base s₀.workspace.filter) s₁ (.scanned source (.ok report)) s₂)
    (hreads : file ∉ report.failedFiles) :
    ((∃ r ∈ report.records, r.isAt file line ∧ r.issueNumber = some number) ↔
      ∃ fresh ∈ s₀.workspace.pattern.scanContent file content, fresh.line = line ∧
        (fresh.issueNumber = some number ∨ fresh.issueNumber = none ∧ held.hasMarker = false ∧
          ∀ e ∈ events, ¬ e.Misses file)) ∧
      ∀ r ∈ report.records, ∀ r' ∈ report.records, r.isAt file line → r'.isAt file line →
        r = r' := by
  have hsetup := hrun.sameSetup
  obtain ⟨houtage, files', hlist', hrecords, hfailed, -⟩ := scan_of_step hlast
  obtain rfl : files' = files := by
    rw [hsetup.filter, houtage.list, hlist] at hlist'
    exact (Except.ok.inj hlist').symm
  rw [hsetup.pattern] at hrecords
  have hok : source.read file = .ok content := by
    rcases houtage.read file with hok | hfault
    · exact hok.trans hread
    · exact absurd ((hfailed file).mpr ⟨hfile, hfault⟩) hreads
  -- the number of a record of the line
  have hreported {fresh : CommentRecord}
      (hfresh : fresh ∈ s₀.workspace.pattern.scanContent file content) (hline : fresh.line = line) :
      (fresh.issueNumber.or (rememberedIssue s₁.saved file fresh.line)) = some number ↔
        (fresh.issueNumber = some number ∨ fresh.issueNumber = none ∧ held.hasMarker = false ∧
          ∀ e ∈ events, ¬ e.Misses file) := by
    subst hline
    cases hmarker : fresh.issueNumber with
    | some marker => simp
    | none =>
      rw [Option.none_or,
        rememberedIssue_of_run hlist hfile hread hfresh hmarker hscans hrun number,
        rememberedIssue_eq_some_iff hheld]
      simp [hnumber]
  refine ⟨⟨?_, ?_⟩, fun r hr r' hr' hat hat' => ?_⟩
  · rintro ⟨r, hr, hat, hrow⟩
    obtain ⟨fresh, hfresh, rfl⟩ := exists_fresh_of_scan hok hrecords hr hat
    rw [(records_of_scan hfile hok hfresh hrecords).2 r hr hat] at hrow
    exact ⟨fresh, hfresh, rfl, (hreported hfresh rfl).mp hrow⟩
  · rintro ⟨fresh, hfresh, rfl, hkept⟩
    have hat : fresh.isAt file fresh.line :=
      isAt_iff_file_line.mpr ⟨ScanPattern.file_of_mem hfresh, rfl⟩
    exact ⟨_, (records_of_scan hfile hok hfresh hrecords).1, hat, (hreported hfresh rfl).mpr hkept⟩
  · obtain ⟨fresh, hfresh, rfl⟩ := exists_fresh_of_scan hok hrecords hr hat
    have hunique := (records_of_scan hfile hok hfresh hrecords).2
    rw [hunique r hr hat, hunique r' hr' hat']

section Example

/-- A source with a single line. -/
def oneLine : FileSource := .ofFiles [("a.ts", "x")] [] none

/-- The source with a single line when it cannot be read. -/
def oneLineUnreadable : FileSource := .ofFiles [] ["a.ts"] none

/-- The record of the line, linked to an issue. -/
def oneLineLinked : CommentRecord :=
  (firstLine "a.ts" "x").withNumber (some 5)

/-- The source lists its only file. -/
theorem list_oneLine : oneLine.list (.endingIn ".ts") = .ok ["a.ts"] := by
  decide +kernel

/-- The other source lists the same file, but cannot read it. -/
theorem isOutageOf_oneLine : oneLineUnreadable.IsOutageOf oneLine (.endingIn ".ts") := by
  refine ⟨rfl, fun file => .inr ?_⟩
  unfold oneLineUnreadable FileSource.ofFiles
  dsimp only
  split
  · exact ⟨_, rfl⟩
  · exact ⟨_, rfl⟩

/-- A session in which the record of the line has been saved. -/
theorem exists_saved_oneLine : ∃ files, (sample ".ts" files).saved = [oneLineLinked] ∧
    (sample ".ts" files).workspace.store.Ready files :=
  FileTree.exists_load_eq [oneLineLinked]

/-- A file that is read has not failed. -/
theorem not_mem_failedFiles {env : Surroundings} (h : Step env s (.scanned source (.ok report)) s')
    (hread : source.read file = .ok content) : file ∉ report.failedFiles := by
  obtain ⟨-, files, -, -, hfailed, -⟩ := scan_of_step h
  intro hmem
  obtain ⟨-, fault, hfault⟩ := (hfailed file).mp hmem
  rw [hread] at hfault
  simp at hfault

/-- The number is reported again after a scan that has read the file. -/
theorem number_found_again : ∃ s₀ s₁ s₂ first report,
    s₀.saved = [oneLineLinked] ∧
      Run (.outages oneLine s₀.workspace.filter) s₀ [.scanned oneLine (.ok first)] s₁ ∧
      Step (.outages oneLine s₀.workspace.filter) s₁ (.scanned oneLine (.ok report)) s₂ ∧
      ∃ r ∈ report.records, r.isAt "a.ts" 1 ∧ r.issueNumber = some 5 := by
  obtain ⟨files, hsaved, hready⟩ := exists_saved_oneLine
  have hreads : oneLine.IsOutageOf oneLine (.endingIn ".ts") := ⟨rfl, fun _ => .inl rfl⟩
  have hread : oneLine.read "a.ts" = .ok "x" := rfl
  obtain ⟨first, s₁, hfirst, hready₁⟩ := exists_scan (.outages oneLine (.endingIn ".ts"))
    (s := sample ".ts" files) hreads hready list_oneLine
  obtain ⟨report, s₂, hlast, -⟩ := exists_scan (.outages oneLine (.endingIn ".ts"))
    (s := s₁) hreads hready₁ (by rw [hfirst.sameSetup.filter]; exact list_oneLine)
  have hrun := Run.snoc (.nil (sample ".ts" files)) hfirst
  have hfresh : oneLineLinked.withNumber none ∈ ScanPattern.everyLine.scanContent "a.ts" "x" :=
    ScanPattern.firstLine_mem_scanContent_x "a.ts"
  have hheld : savedRecord? (sample ".ts" files).saved "a.ts" 1 = some oneLineLinked := by
    rw [hsaved]
    rfl
  have hscans : ∀ e ∈ [Event.scanned oneLine (.ok first)], e.IsScan ∧ ¬ e.Misses "a.ts" := by
    intro e he
    obtain rfl := List.mem_singleton.mp he
    refine ⟨⟨_, _, rfl⟩, ?_⟩
    rintro ⟨_, _, heq, hmissed⟩
    obtain ⟨-, hresult⟩ := Event.scanned.inj heq
    obtain rfl := Except.ok.inj hresult
    exact not_mem_failedFiles hfirst hread hmissed
  have hlist : oneLine.list (sample ".ts" files).workspace.filter = .ok ["a.ts"] := list_oneLine
  have hnumber : oneLineLinked.issueNumber = some 5 := rfl
  obtain ⟨hreported, -⟩ := reported_number_iff
    hlist (List.mem_singleton_self _) hread hheld hnumber (fun e he => (hscans e he).1)
    hrun hlast (not_mem_failedFiles hlast hread)
  refine ⟨sample ".ts" files, s₁, s₂, first, report, hsaved, hrun, hlast, hreported.mpr ?_⟩
  exact ⟨_, hfresh, rfl, .inr ⟨rfl, rfl, fun e he => (hscans e he).2⟩⟩

/-- A number that is saved after one scan is gone after a scan that cannot read the file and another
one that can, although the line never changes. -/
theorem link_lost_when_missed : ∃ s₀ s₁ s₂ s₃ first missed last,
    Step (.outages oneLine s₀.workspace.filter) s₀ (.scanned oneLine (.ok first)) s₁ ∧
      (∃ r ∈ s₁.saved, r.isAt "a.ts" 1 ∧ r.issueNumber = some 5) ∧
      Step (.outages oneLine s₀.workspace.filter) s₁ (.scanned oneLineUnreadable (.ok missed)) s₂ ∧
      Step (.outages oneLine s₀.workspace.filter) s₂ (.scanned oneLine (.ok last)) s₃ ∧
      "a.ts" ∉ last.failedFiles ∧ (∃ r ∈ last.records, r.isAt "a.ts" 1) ∧
      ∀ r ∈ last.records, r.isAt "a.ts" 1 → r.issueNumber = none := by
  obtain ⟨files, hsaved, hready⟩ := exists_saved_oneLine
  have hreads : oneLine.IsOutageOf oneLine (.endingIn ".ts") := ⟨rfl, fun _ => .inl rfl⟩
  have hread : oneLine.read "a.ts" = .ok "x" := rfl
  have hunread : ∃ fault, oneLineUnreadable.read "a.ts" = .error fault := ⟨_, rfl⟩
  have hlist : oneLineUnreadable.list (.endingIn ".ts") = .ok ["a.ts"] := list_oneLine
  have hfresh : oneLineLinked.withNumber none ∈ ScanPattern.everyLine.scanContent "a.ts" "x" :=
    ScanPattern.firstLine_mem_scanContent_x "a.ts"
  obtain ⟨first, s₁, hfirst, hready₁⟩ := exists_scan (.outages oneLine (.endingIn ".ts"))
    (s := sample ".ts" files) hreads hready list_oneLine
  have hsetup₁ := hfirst.sameSetup
  obtain ⟨missed, s₂, hmissed, hready₂⟩ := exists_scan (.outages oneLine (.endingIn ".ts"))
    (s := s₁) isOutageOf_oneLine hready₁ (by rw [hsetup₁.filter]; exact hlist)
  have hsetup₂ := hsetup₁.trans hmissed.sameSetup
  obtain ⟨last, s₃, hlast, -⟩ := exists_scan (.outages oneLine (.endingIn ".ts"))
    (s := s₂) hreads hready₂ (by rw [hsetup₂.filter]; exact list_oneLine)
  refine ⟨sample ".ts" files, s₁, s₂, s₃, first, missed, last, hfirst, ?_, hmissed, hlast,
    not_mem_failedFiles hlast hread, ?_⟩
  · obtain ⟨-, list, hlist', hrecords, -, hsaved₁⟩ := scan_of_step hfirst
    obtain rfl : ["a.ts"] = list := Except.ok.inj (list_oneLine.symm.trans hlist')
    obtain ⟨hmem, -⟩ := records_of_scan (List.mem_singleton_self _) hread hfresh hrecords
    rw [hsaved] at hmem
    exact ⟨_, hsaved₁ ▸ hmem, isAt_iff.mpr rfl, rfl⟩
  · obtain ⟨-, list, -, hrecords₂, -, hsaved₂⟩ := scan_of_step hmissed
    obtain ⟨-, list', hlist', hrecords₃, -, -⟩ := scan_of_step hlast
    rw [hsetup₂.filter] at hlist'
    rw [hsetup₂.pattern] at hrecords₃
    obtain rfl : ["a.ts"] = list' := Except.ok.inj (list_oneLine.symm.trans hlist')
    obtain ⟨fault, hfault⟩ := hunread
    obtain ⟨hmem, hunique⟩ := records_of_scan (List.mem_singleton_self _) hread hfresh hrecords₃
    have hforgotten : rememberedIssue missed.records "a.ts" 1 = none :=
      rememberedIssue_of_missed hfault hrecords₂
    refine ⟨⟨_, hmem, isAt_iff.mpr rfl⟩, fun r hr hat => ?_⟩
    rw [hunique r hr hat, hsaved₂]
    exact hforgotten

end Example

end Session

end TrackedComments

import TrackedComments.Proofs.Text.Pieces
import TrackedComments.Proofs.Workspace.Commuting
import TrackedComments.Proofs.Workspace.Failures
import TrackedComments.Proofs.Workspace.Rescan

/-!
# Fresh records are not stale

A scan and a write-back number the lines of a file alike and trim them alike, so a record reads as
the scan has found it for as long as the file stays as it was. Creating an issue right after a scan,
or once its records have been loaded again, is never refused because of a changed line.

## Main results

* `ScanPattern.scanContent_eq_pieces`: the lines that a scan numbers, cut without their endings.
* `WriteBack.error_of_insert`: why the marker of a record may be refused.
* `Workspace.createIssue_ne_stale`: when a comment is not refused as stale.
* `Workspace.scan_never_stale`: after a scan none is, in a file that has not been edited.
-/

namespace TrackedComments

open CommentRecord

/-- A scan numbers the pieces of a content, without the endings that they have. -/
theorem ScanPattern.scanContent_eq_pieces (p : ScanPattern) (file content : String) :
    p.scanContent file content =
      ((pieces content.toList).map Line.bodyOf).zipIdx.filterMap fun (body, index) =>
        p.scanNumbered file index body := by
  rw [scanContent, ← map_body_lines, List.zipIdx_map, List.filterMap_map]
  rfl

namespace WriteBack

variable {p : ScanPattern} {t : FileTree} {root file content : String} {r : CommentRecord}

/-- A content takes the marker of a record, or has one there already. -/
theorem exists_insertInto_of_mem (h : r ∈ p.scanContent file content) (number : UInt64) :
    ∃ edit, insertInto content.toList r.line number (some r.text.toList) = .ok edit := by
  obtain ⟨l, hl, htext⟩ := ScanPattern.lineAt_of_mem h
  have hexpected : ¬ (some r.text.toList).any (· != Chars.trim l.body) := by simp [htext]
  unfold insertInto
  simp only [hl, bind, Except.bind, if_neg hexpected]
  split <;> exact ⟨_, rfl⟩

/-- The marker of a record is refused only if the file cannot be written. -/
theorem error_of_insert (h : r ∈ p.scanContent file content)
    (hread : t.readText (Path.join root.toList file.toList) = .ok content) {number : UInt64}
    {fault : WriteBackFault} (hinsert : (insert t root file r.line number (some r.text)).2 =
      .error fault) : ∃ e, fault = .unwritable e := by
  obtain ⟨⟨updated, outcome⟩, hinto⟩ := exists_insertInto_of_mem h number
  obtain ⟨t', hcourse⟩ : ∃ t', Course t root file r.line number (some r.text) t' (.error fault) :=
    ⟨_, insert_eq_iff.mp (Prod.ext rfl hinsert)⟩
  cases hcourse with
  | unreadable hunread => simp [hread] at hunread
  | refused hread' hrefused =>
    obtain rfl := Except.ok.inj (hread.symm.trans hread')
    rw [Option.map_some, hinto] at hrefused
    simp at hrefused
  | unwritten => exact ⟨_, rfl⟩

end WriteBack

namespace FileSource

/-- Whether a file reads in a tree as a source has read it. -/
def Agrees (source : FileSource) (t : FileTree) (root file : String) : Prop :=
  ∀ content, source.read file = .ok content →
    t.readText (Path.join root.toList file.toList) = .ok content

/-- Whether records are such as a scan of a source gives them, but for their numbers. -/
def Scans (source : FileSource) (p : ScanPattern) (records : List CommentRecord) : Prop :=
  ∀ r ∈ records, ∃ fresh ∈ source.recordsOf p r.file, r = fresh.withNumber r.issueNumber

variable {source : FileSource} {p : ScanPattern} {records : List CommentRecord} {t : FileTree}
  {root : String} {r : CommentRecord}

/-- The line of a record reads as the record does, if its file reads as it did. -/
theorem Scans.readLine (h : source.Scans p records) (hr : r ∈ records)
    (hagrees : source.Agrees t root r.file) :
    WriteBack.readLine t root r.file r.line = .ok r.text := by
  obtain ⟨fresh, hmem, hrow⟩ := h r hr
  obtain ⟨content, hread, hfresh⟩ := mem_recordsOf.mp hmem
  have hline := WriteBack.readLine_of_mem hfresh (hagrees content hread)
  rw [congrArg CommentRecord.line hrow, congrArg CommentRecord.text hrow]
  exact hline

end FileSource

namespace Workspace

variable {w : Workspace} {t : FileTree} {file : String} {line : UInt32} {force : Bool}

/-! ### Refusals -/

/-- A comment whose line reads as it did is not refused as stale. -/
theorem recordToLink_ne_stale {missing : List String}
    (h : ∀ record, w.find? t file line = some record →
      WriteBack.readLine t w.root file line = .ok record.text) :
    w.recordToLink t missing file line force ≠ .error (.staleComment file line) := by
  intro hstale
  unfold recordToLink at hstale
  split at hstale
  · simp at hstale
  · rename_i record hfind
    split at hstale
    · simp at hstale
    · split at hstale
      · simp at hstale
      · simp [h record hfind, Except.toOption] at hstale

/-- A comment is not refused as stale if its line reads as its record says. -/
theorem createIssue_ne_stale {τ : Type} [IssueTracker τ] {tracker : τ}
    (h : ∀ record, w.find? t file line = some record →
      WriteBack.readLine t w.root file line = .ok record.text) :
    (w.createIssue t tracker file line force).1 ≠ .error (.staleComment file line) := by
  intro hstale
  rcases hresult : w.createIssue t tracker file line force with ⟨result, w', tracker', t'⟩
  rw [hresult] at hstale
  obtain rfl : result = .error (.staleComment file line) := hstale
  rcases createIssue_cases hresult with ⟨e, hrecord, he, -⟩ | ⟨_, e, -, -, he, -⟩ |
    ⟨record, info, t₁, -, -, hlink⟩
  · obtain rfl := Except.error.inj he
    exact recordToLink_ne_stale h hrecord
  · simp at he
  · obtain ⟨path, message, he⟩ := error_of_link_error hlink
    simp at he

/-! ### After a scan -/

/-- The records of a report are those of the contents of its files. -/
theorem scans_of_report {source : FileSource} {report : ScanReport}
    (h : w.report t source = .ok report) : source.Scans w.pattern report.records := by
  intro r hr
  obtain ⟨-, fresh, -, -, hmem, rfl⟩ := exists_fresh_of_report h hr
  exact ⟨fresh, hmem, rfl⟩

/-- After a scan of the directory a file reads as the scan has read it, unless it is one of the
store's own. -/
theorem agrees_of_scan {w' : Workspace} {t' : FileTree} {respectIgnore : Bool}
    {report : ScanReport}
    (h : w.scan t (.ofTree t w.root respectIgnore) = (.ok report, w', t'))
    (hplace : Path.location (Path.join w.root.toList file.toList) ∉ w.store.ownPlaces) :
    (FileSource.ofTree t w.root respectIgnore).Agrees t' w.root file := by
  obtain ⟨-, -, -, hframe, -⟩ := scan_ofTree_eq_ok h
  intro content hread
  exact hframe.readText hplace (FileTree.readText_of_readSource hread)

/-- While nothing but the records of a scan is shown and saved, no comment of a file that reads as
it did is refused as stale. -/
theorem createIssue_ne_stale_of_scans {source : FileSource} {p : ScanPattern}
    {records : List CommentRecord} (h : source.Scans p records)
    (hshown : w.tree.comments ⊆ records) (hsaved : w.store.load t ⊆ records)
    (hagrees : source.Agrees t w.root file) {τ : Type} [IssueTracker τ] (tracker : τ) :
    (w.createIssue t tracker file line force).1 ≠ .error (.staleComment file line) := by
  refine createIssue_ne_stale fun record hfind => ?_
  obtain ⟨hmem, hid⟩ := mem_of_find? hshown hsaved hfind
  obtain ⟨rfl, rfl⟩ := Prod.mk.inj hid
  exact h.readLine hmem hagrees

/-- Fresh records are not stale. A scan numbers the pieces of a content, a write-back the same
pieces with the endings kept. The line of a record reads as the record does, and its marker is
refused only if the file cannot be written. After a scan, and also once the records of a scan have
been saved and loaded again, no comment of a file that reads as it did is refused as stale. -/
theorem scan_never_stale :
    (∀ (p : ScanPattern) (file content : String),
      p.scanContent file content =
          (((pieces content.toList).map Line.bodyOf).zipIdx.filterMap fun (body, index) =>
            p.scanNumbered file index body) ∧
        lines content.toList = (pieces content.toList).map Line.ofPiece ∧
        ∀ r ∈ p.scanContent file content, ∀ (t : FileTree) (root : String),
          t.readText (Path.join root.toList file.toList) = .ok content →
          WriteBack.readLine t root file r.line = .ok r.text ∧
          ∀ number fault, (WriteBack.insert t root file r.line number (some r.text)).2 =
            .error fault → ∃ e, fault = .unwritable e) ∧
    (∀ (w w' : Workspace) (t₀ t₁ t : FileTree) (source : FileSource) (report : ScanReport)
      (file : String), w.scan t₀ source = (.ok report, w', t₁) →
      w.store.load t = w.store.load t₁ → source.Agrees t w.root file →
      ∀ (τ : Type) [IssueTracker τ] (tracker : τ) (line : UInt32) (force : Bool),
        (w'.createIssue t tracker file line force).1 ≠ .error (.staleComment file line)) ∧
    ∀ (w : Workspace) (t₀ t₁ t : FileTree) (source : FileSource) (p : ScanPattern)
      (records : List CommentRecord) (file : String), source.Scans p records →
      w.store.save t₀ records = (t₁, .ok ()) →
      w.store.load t = w.store.load t₁ → source.Agrees t w.root file →
      ∀ (τ : Type) [IssueTracker τ] (tracker : τ) (line : UInt32) (force : Bool),
        ((w.loadPersisted t).createIssue t tracker file line force).1 ≠
          .error (.staleComment file line) := by
  refine ⟨fun p file content => ⟨p.scanContent_eq_pieces file content,
      lines_eq_map_ofPiece content.toList, fun r hr t root hread => ⟨?_, ?_⟩⟩,
    fun w w' t₀ t₁ t source report file h hsaved hagrees τ _ tracker line force => ?_,
    fun w t₀ t₁ t source p records file h hsave hsaved hagrees τ _ tracker line force => ?_⟩
  · exact WriteBack.readLine_of_mem hr hread
  · intro number fault hinsert
    exact WriteBack.error_of_insert hr hread hinsert
  · obtain ⟨hreport, hsave, rfl⟩ := scan_eq_ok h
    have hload : (w.setComments report.records).store.load t = report.records :=
      hsaved.trans (StateStore.load_of_save_ok hsave)
    have hshown : (w.setComments report.records).tree.comments ⊆ report.records := by
      rw [comments_setComments]
      exact List.Subset.refl _
    exact createIssue_ne_stale_of_scans (scans_of_report hreport) hshown
      (hload ▸ List.Subset.refl _) hagrees tracker
  · have hload : w.store.load t = records := hsaved.trans (StateStore.load_of_save_ok hsave)
    have hshown : (w.loadPersisted t).tree.comments ⊆ records := by
      rw [loadPersisted, comments_setComments, hload]
      exact List.Subset.refl _
    exact createIssue_ne_stale_of_scans h hshown (hload ▸ List.Subset.refl _) hagrees tracker

/-- A text whose lines end in all ways, with more than one carriage return before a line feed and
one at the end. -/
def mixedEndings : String := " x\r\r\n\ny\r"

theorem isText_mixedEndings : FileTree.IsText mixedEndings := by
  unfold FileTree.IsText
  decide +kernel

/-- The last line is among the comments. -/
theorem commentAt_mem_mixedEndings :
    commentAt 3 "y" ∈ ScanPattern.everyLine.scanContent "a.ts" mixedEndings := by
  refine ScanPattern.mem_scanContent.mpr ⟨2, ⟨['y', '\r'], .none⟩, by decide +kernel, ?_⟩
  rw [ScanPattern.scanNumbered, ScanPattern.scanLine_everyLine]
  decide +kernel

/-- After a scan of such a text its last comment is not stale. -/
theorem scan_never_stale_mixedEndings :
    commentAt 3 "y" ∈ ScanPattern.everyLine.scanContent "a.ts" mixedEndings ∧
      ∃ report w t,
        (everyLineOf ".ts").scan (.single "a.ts" mixedEndings)
            ((everyLineOf ".ts").source (.single "a.ts" mixedEndings)) = (.ok report, w, t) ∧
          WriteBack.readLine t "." "a.ts" 3 = .ok "y" ∧
          (WriteBack.insert t "." "a.ts" 3 7 (some "y")).2 ≠ .error .changedLine ∧
          (w.createIssue t LineTracker.mk "a.ts" 3 false).1 ≠ .error (.staleComment "a.ts" 3) ∧
          (((everyLineOf ".ts").loadPersisted t).createIssue t LineTracker.mk "a.ts" 3 true).1 ≠
            .error (.staleComment "a.ts" 3) := by
  have hfiles := FileTree.holdsTexts_single FileTree.isPlain_aTs isText_mixedEndings
  have hread : (FileTree.single "a.ts" mixedEndings).readText
      (Path.join ".".toList "a.ts".toList) = .ok mixedEndings := by
    refine (FileTree.enters_current _).readText FileTree.isPlain_aTs ?_
    rw [FileTree.location_current]
    exact FileTree.get?_single _ _ _ (by decide)
  obtain ⟨files, hlist⟩ :=
    (FileTree.single "a.ts" mixedEndings).exists_listFiles_current true (.endingIn ".ts")
  have hlist : ((everyLineOf ".ts").source (.single "a.ts" mixedEndings)).list
      (everyLineOf ".ts").filter = .ok files := hlist
  obtain ⟨report, t, hscan, -⟩ := exists_scan (w := everyLineOf ".ts") hfiles.ready hlist
  obtain ⟨-, -, -, hframe, -⟩ := scan_ofTree_eq_ok hscan
  have hplace : Path.location (Path.join ".".toList "a.ts".toList) ∉
      (everyLineOf ".ts").store.ownPlaces := by decide
  have hagrees := agrees_of_scan hscan hplace
  obtain ⟨hreport, hsave, -⟩ := scan_eq_ok hscan
  obtain ⟨hline, hscanned, hloaded⟩ := scan_never_stale
  obtain ⟨-, -, hcomment⟩ := hline .everyLine "a.ts" mixedEndings
  obtain ⟨hasRead, hmarker⟩ :=
    hcomment _ commentAt_mem_mixedEndings t "." (hframe.readText hplace hread)
  refine ⟨commentAt_mem_mixedEndings, report, _, t, hscan, hasRead, fun hfault => ?_,
    hscanned _ _ _ _ t _ _ "a.ts" hscan rfl hagrees LineTracker LineTracker.mk 3 false,
    hloaded _ _ _ t _ _ _ "a.ts" (scans_of_report hreport) hsave rfl hagrees LineTracker
      LineTracker.mk 3 true⟩
  obtain ⟨_, hfault⟩ := hmarker 7 _ hfault
  simp at hfault

end Workspace

end TrackedComments

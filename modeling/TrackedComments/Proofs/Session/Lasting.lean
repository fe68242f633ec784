import TrackedComments.Proofs.Session.FirstSteps

/-!
# What remains of a link

After an issue has been filed for a comment, rescans report its number, whether it stands on the
line or in the saved list alone; but a number that the line carried before wins over it. The saved
number lasts as long as no rescan leaves the file out, and both as long as the file is not used as
the temporary file of another one.

## Main results

* `Session.stands_of_filed`, `Session.stands_step`: what an issue leaves behind, and what keeps it.
* `Session.reported_number_of_filed`: the number that is reported after the last issue for a
  comment.
-/

namespace TrackedComments

open CommentRecord

/-- The number that lasts when an issue has been filed: that of the issue, unless the line carried
another number already. -/
def CreatedIssue.lastingNumber (c : CreatedIssue) : UInt64 :=
  match c.marker with
  | .written (.inserted _) => c.info.number
  | _ => (Marker.find? c.record.text.toList).getD c.info.number

namespace Session

/-- Whether an event is no scan, or a scan that lists a file. -/
def Event.Lists (filter : FileFilter) (file : String) : Event → Prop
  | .scanned source (.ok _) => ∃ files, source.list filter = .ok files ∧ file ∈ files
  | _ => True

variable {s s' : Session} {event : Event} {settings : Bool → Prop} {linked r : CommentRecord}

/-- What is left of a linked record: its line reads as it did, and its number stands on the line or
is shown. -/
structure Stands (linked : CommentRecord) (s : Session) : Prop where
  line : ∃ fresh, s.workspace.Gives s.files fresh ∧ fresh.identity = linked.identity ∧
    fresh.text = linked.text
  number : ∀ r ∈ s.shown, r.identity = linked.identity → r.text = linked.text ∧
    r.rescanned.issueNumber = linked.rescanned.issueNumber
  present : (Marker.find? linked.text.toList).isSome ∨ ∃ r ∈ s.shown, r.identity = linked.identity

/-! ### Issues -/

/-- The number of the marker that has been added to a line. -/
theorem Filed.find?_of_inserted {record : CommentRecord} {created : CreatedIssue} {text : String}
    (h : Filed s record created s') (hs : Settled s)
    (hmarker : created.marker = .written (.inserted text)) :
    Marker.find? created.record.text.toList =
      if created.info.number = 0 then none else some created.info.number := by
  obtain ⟨names, t, -, -, -, hinserts, -⟩ := h.exists_inserts hs hmarker
  obtain ⟨content, updated, -, hinto, -⟩ := hinserts.content
  obtain ⟨l, -, -, hopen, -, houtcome⟩ := WriteBack.insertInto_eq_some hinto
  obtain rfl := WriteBackOutcome.inserted.inj houtcome
  rw [h.linked, hmarker]
  simp only [Workspace.linkedRecord, withIssue, String.toList_ofList, Marker.find?_trim]
  exact Marker.find?_append_format hopen _

/-- A number that a line carries lasts, and otherwise the number of the issue does. -/
theorem Filed.lastingNumber_eq {record : CommentRecord} {created : CreatedIssue}
    (h : Filed s record created s') (hs : Settled s) :
    created.lastingNumber = (Marker.find? record.text.toList).getD created.info.number := by
  rw [CreatedIssue.lastingNumber]
  split
  · rename_i text hmarker
    obtain ⟨names, t, -, -, -, hinserts, -⟩ := h.exists_inserts hs hmarker
    obtain ⟨content, updated, -, hinto, -⟩ := hinserts.content
    obtain ⟨l, -, htext, hopen, -⟩ := WriteBack.insertInto_eq_some hinto
    rw [htext _ rfl, Marker.find?_trim, Marker.find?_of_not_isOpenedIn hopen, Option.getD_none]
  · rename_i hnot
    rw [h.linked, Workspace.linkedRecord_of_not_inserted hnot]
    rfl

/-- The number that a rescan reports for a record that has just been linked. -/
theorem Filed.issueNumber_rescanned {record : CommentRecord} {created : CreatedIssue}
    (h : Filed s record created s') (hs : Settled s) (hnumber : 1 ≤ created.info.number) :
    created.record.rescanned.issueNumber = some created.lastingNumber := by
  have hlinked : created.record.issueNumber = some created.info.number := by
    rw [h.linked, Workspace.issueNumber_linkedRecord]
  have hrescanned : created.record.rescanned.issueNumber =
      some ((Marker.find? created.record.text.toList).getD created.info.number) := by
    rw [rescanned, withNumber, hlinked]
    cases Marker.find? created.record.text.toList <;> rfl
  rw [hrescanned, CreatedIssue.lastingNumber]
  split
  · rename_i text hmarker
    have hne : created.info.number ≠ 0 := by
      rintro hzero
      rw [hzero] at hnumber
      exact absurd hnumber (by decide)
    rw [h.find?_of_inserted hs hmarker, if_neg hne, Option.getD_some]
  · rfl

/-- What an issue leaves behind. -/
theorem stands_of_filed {record : CommentRecord} {created : CreatedIssue}
    (h : Filed s record created s') (hs : Settled s) (hs' : Settled s')
    (hsetup : s.workspace.SameSetup s'.workspace)
    (hrejects : ∀ name ∈ StateStore.ownNames, s.workspace.filter.accepts name = false)
    (hread : s.workspace.AsRead s.files record) : Stands created.record s' := by
  obtain ⟨fresh, hgives, -, hrow⟩ := h.gives hs hrejects hread
  refine ⟨⟨fresh, hsetup.gives_iff.mpr hgives, ?_, ?_⟩, fun r hr hid => ?_,
    .inr ⟨_, h.mem_shown, rfl⟩⟩
  · rw [hrow, identity_withNumber]
  · rw [hrow]
    rfl
  · rw [eq_of_identity_eq hs'.distinct hr h.mem_shown hid]
    exact ⟨rfl, rfl⟩

/-! ### Steps -/

/-- Rescanning a record that a rescan has reported changes nothing. -/
theorem Rescans.rescanned_eq {respectIgnore : Bool} {report : ScanReport}
    (h : Rescans s respectIgnore report s') (hr : r ∈ report.records) : r.rescanned = r := by
  obtain ⟨files, -, hmem⟩ := h.listed
  obtain ⟨fresh, -, hgives, rfl⟩ := (hmem r).mp hr
  have hnumber := hgives.issueNumber
  simp only [rescanned, withNumber, ← hnumber]
  cases fresh.issueNumber <;> rfl

/-- A rescan that lists the file of a link shows a record for it. -/
theorem Rescans.exists_mem {respectIgnore : Bool} {report : ScanReport}
    (h : Rescans s respectIgnore report s') (hs : Stands linked s)
    (hlists : (Event.scanned (.ofTree s.files s.workspace.root respectIgnore) (.ok report)).Lists
      s.workspace.filter linked.file) :
    ∃ r ∈ s'.shown, r.identity = linked.identity := by
  obtain ⟨files, hlist, hmem⟩ := h.listed
  obtain ⟨files', hlist', hfile⟩ := hlists
  obtain rfl := Except.ok.inj (hlist.symm.trans hlist')
  obtain ⟨fresh, hgives, hid, -⟩ := hs.line
  have hlisted : fresh.file ∈ files := by
    rw [(Prod.mk.inj hid).1]
    exact hfile
  refine ⟨fresh.withNumber (fresh.issueNumber.or
    (rememberedIssue s.saved fresh.file fresh.line)), ?_, hid⟩
  rw [h.shown]
  exact (hmem _).mpr ⟨fresh, hlisted, hgives, rfl⟩

/-- What a rescan shows for a link has its number, if the line carries it or the file is listed. -/
theorem Rescans.number {respectIgnore : Bool} {report : ScanReport}
    (h : Rescans s respectIgnore report s') (hs : Settled s) (hstands : Stands linked s)
    (hr : r ∈ s'.shown) (hid : r.identity = linked.identity) :
    r.text = linked.text ∧ r.rescanned.issueNumber = linked.rescanned.issueNumber := by
  obtain ⟨files, -, hmem⟩ := h.listed
  obtain ⟨fresh, -, hgives, rfl⟩ := (hmem r).mp (h.shown ▸ hr)
  rw [identity_withNumber] at hid
  obtain ⟨fresh', hgives', hid', htext⟩ := hstands.line
  obtain rfl := hgives.unique hgives' (hid.trans hid'.symm)
  refine ⟨htext, ?_⟩
  rw [h.rescanned_eq (h.shown ▸ hr), rescanned, withNumber, withNumber, hgives.issueNumber, htext]
  rcases hstands.present with hmarker | ⟨old, hold, hold'⟩
  · obtain ⟨number, hnumber⟩ := Option.isSome_iff_exists.mp hmarker
    simp [hnumber]
  · obtain ⟨htext', hnumber⟩ := hstands.number old hold hold'
    have hremembered := rememberedIssue_of_mem hs.distinct_saved (hs.same ▸ hold)
    obtain ⟨hfile', hline'⟩ := Prod.mk.inj (hid.trans hold'.symm)
    rw [hfile', hline', hremembered, hasMarker, htext']
    rw [rescanned, rescanned, withNumber, withNumber, htext'] at hnumber
    cases hmarker : Marker.find? linked.text.toList with
    | some number => simp
    | none => simpa [hmarker] using hnumber

/-- A rescan that lists the file of a link reports one record for it, with its number. -/
theorem Rescans.reported {respectIgnore : Bool} {report : ScanReport}
    (h : Rescans s respectIgnore report s') (hs : Settled s) (hs' : Settled s')
    (hstands : Stands linked s)
    (hlists : (Event.scanned (.ofTree s.files s.workspace.root respectIgnore) (.ok report)).Lists
      s.workspace.filter linked.file) :
    ∃ r ∈ report.records, r.identity = linked.identity ∧
      r.issueNumber = linked.rescanned.issueNumber ∧
      ∀ r' ∈ report.records, r'.identity = linked.identity → r' = r := by
  obtain ⟨r, hr, hid⟩ := h.exists_mem hstands hlists
  have hnumber := (h.number hs hstands hr hid).2
  rw [h.shown] at hr
  rw [h.rescanned_eq hr] at hnumber
  refine ⟨r, hr, hid, hnumber, fun r' hr' hid' => ?_⟩
  rw [← h.shown] at hr hr'
  exact eq_of_identity_eq hs'.distinct hr' hr (hid'.trans hid.symm)

section Steps

variable (hs : Settled s) (hstands : Stands linked s)
  (hrejects : ∀ name ∈ StateStore.ownNames, s.workspace.filter.accepts name = false)
  (hfile : s.workspace.filter.Lists linked.file)
  (h : Step (.undisturbed s.workspace.root settings) s event s') (hevent : event.Undisturbed)
  (hspared : ¬ event.Overwrites linked.file)
  (hother : ∀ force answer created,
    event ≠ .created linked.file linked.line force answer (.ok created))
  (hlists : (Marker.find? linked.text.toList).isSome ∨ event.Lists s.workspace.filter linked.file)

include hs hstands hrejects hfile h hevent hspared hother hlists

/-- What an issue leaves behind lasts until another issue is filed, as long as no rescan leaves the
file out or the line carries a number. -/
theorem stands_step : Stands linked s' := by
  have hsetup := h.sameSetup
  have hline : ∃ fresh, s'.workspace.Gives s'.files fresh ∧ fresh.identity = linked.identity ∧
      fresh.text = linked.text := by
    obtain ⟨fresh, hgives, hid, htext⟩ := hstands.line
    obtain ⟨hfresh, hfresh'⟩ := Prod.mk.inj hid
    refine ⟨fresh, hsetup.gives_iff.mpr ?_, hid, htext⟩
    exact gives_of_step hs hrejects h hevent hgives (hfresh ▸ hfile) (hfresh ▸ hspared)
      (by rw [hfresh, hfresh']; exact hother)
  rcases step_cases hs (hrejects _ (by decide)) h hevent with ⟨_, report, -, rfl, hscan⟩ |
    ⟨record, force, created, rfl, -, hfiled⟩ | ⟨-, hshown, -⟩
  · refine ⟨hline, fun r hr => hscan.number hs hstands hr, ?_⟩
    exact hlists.imp id fun hlists => hscan.exists_mem hstands hlists
  · have hne : record.identity ≠ linked.identity := by
      intro heq
      obtain ⟨hfile', hline'⟩ := Prod.mk.inj heq
      exact hother force _ created (by rw [hfile', hline'])
    refine ⟨hline, fun r hr hrow => ?_, hstands.present.imp id ?_⟩
    · rcases hfiled.eq_or_mem_shown hr with rfl | ⟨hold, -⟩
      · exact absurd (hfiled.identity_eq.symm.trans hrow) hne
      · exact hstands.number r hold hrow
    · rintro ⟨old, hold, hrow⟩
      exact ⟨old, hfiled.mem_shown_of_ne hold fun heq => hne (heq.symm.trans hrow), hrow⟩
  · refine ⟨hline, fun r hr => hstands.number r (hshown ▸ hr), ?_⟩
    rw [hshown]
    exact hstands.present

end Steps

/-! ### Runs -/

/-- What an issue leaves behind lasts in a run. -/
theorem stands_run {root : String} {events : List Event} (hs : Settled s)
    (hstands : Stands linked s)
    (hroot : s.workspace.root = root)
    (hrejects : ∀ name ∈ StateStore.ownNames, s.workspace.filter.accepts name = false)
    (hfile : s.workspace.filter.Lists linked.file)
    (hrun : Run (.undisturbed root settings) s events s')
    (hevents : ∀ e ∈ events, e.Undisturbed ∧ ¬ e.Overwrites linked.file)
    (hother : ∀ e ∈ events, ∀ force answer created,
      e ≠ .created linked.file linked.line force answer (.ok created))
    (hlists : (Marker.find? linked.text.toList).isSome ∨
      ∀ e ∈ events, e.Lists s.workspace.filter linked.file) : Settled s' ∧ Stands linked s' := by
  induction hrun with
  | nil => exact ⟨hs, hstands⟩
  | snoc hrun hstep ih =>
    have hfirst {e : Event} {events : List Event} {last : Event} (he : e ∈ events) :
        e ∈ events ++ [last] := List.mem_append_left _ he
    have hlast {e : Event} {events : List Event} : e ∈ events ++ [e] :=
      List.mem_append_right _ List.mem_cons_self
    obtain ⟨hsettled, hstands'⟩ := ih (fun e he => hevents e (hfirst he))
      (fun e he => hother e (hfirst he)) (hlists.imp id fun hlists e he => hlists e (hfirst he))
    obtain ⟨hevent, hspared⟩ := hevents _ hlast
    have hsetup := hrun.sameSetup
    rw [← hroot, ← hsetup.root] at hstep
    rw [← hsetup.filter] at hrejects hfile hlists
    exact ⟨settled_step hsettled (hrejects _ (by decide)) hstep hevent,
      stands_step hsettled hstands' hrejects hfile hstep hevent hspared (hother _ hlast)
        (hlists.imp id fun hlists => hlists _ hlast)⟩

/-- The number that is reported after the last issue for a comment. In a session that has begun with
a scan, in which nobody else changes files, all files can be read and all saves succeed, every scan
that lists the file reports one record for the comment, with the number of the issue, unless its
line carried another number before. The line has to carry a number, or no scan since the issue must
have left the file out. Write-backs may fail in every way, but the file must not be used as the
temporary file of another one. -/
theorem reported_number_of_filed {s₀ s₁ s₂ s₃ s₄ s₅ : Session} {source₀ source : FileSource}
    {report₀ report : ScanReport} {before after : List Event} {file : String} {line : UInt32}
    {force : Bool} {answer : Option (Except TrackerError IssueInfo)} {created : CreatedIssue}
    (hnamed : s₀.files.WellNamed)
    (hrejects : ∀ name ∈ StateStore.ownNames, s₀.workspace.filter.accepts name = false)
    (hscan : Step (.undisturbed s₀.workspace.root settings) s₀ (.scanned source₀ (.ok report₀)) s₁)
    (hbefore : Run (.undisturbed s₀.workspace.root settings) s₁ before s₂)
    (hcreate : Step (.undisturbed s₀.workspace.root settings) s₂
      (.created file line force answer (.ok created)) s₃)
    (hafter : Run (.undisturbed s₀.workspace.root settings) s₃ after s₄)
    (hlast : Step (.undisturbed s₀.workspace.root settings) s₄ (.scanned source (.ok report)) s₅)
    (hread₀ : report₀.failedFiles = []) (hread : report.failedFiles = [])
    (hevents : ∀ e ∈ before ++ after, e.Undisturbed)
    (hspared : ∀ e ∈ before ++ after, ¬ e.Overwrites file) (hnumber : 1 ≤ created.info.number)
    (hnewest : ∀ e ∈ after, ∀ force answer created,
      e ≠ .created file line force answer (.ok created))
    (hlisted : (Event.scanned source (.ok report)).Lists s₀.workspace.filter file)
    (hlists : (Marker.find? created.record.text.toList).isSome ∨
      ∀ e ∈ after, e.Lists s₀.workspace.filter file) :
    ∃ r ∈ report.records, r.isAt file line ∧ r.issueNumber = some created.lastingNumber ∧
      ∀ r' ∈ report.records, r'.isAt file line → r' = r := by
  have hsetup₁ := hscan.sameSetup
  have hsetup₂ := hsetup₁.trans hbefore.sameSetup
  have hsetup₃ := hsetup₂.trans hcreate.sameSetup
  have hsetup₄ := hsetup₃.trans hafter.sameSetup
  have hrejects₂ := hsetup₂.filter ▸ hrejects
  -- up to the issue
  obtain ⟨hs₁, hrows₁⟩ := settled_of_scan hnamed hrejects hscan hread₀
  obtain ⟨hs₂, hrows₂⟩ := rowsAsRead_of_run hs₁ (fun r hr _ => hrows₁ r hr) hsetup₁.root
    (hsetup₁.filter ▸ hrejects) hbefore fun e he =>
      ⟨hevents e (List.mem_append_left _ he), hspared e (List.mem_append_left _ he)⟩
  rw [← hsetup₂.root] at hcreate
  have hs₃ := settled_step hs₂ (hrejects₂ _ (by decide)) hcreate trivial
  obtain ⟨record, hid, hfiled⟩ : ∃ record : CommentRecord,
      record.identity = (file, line) ∧ Filed s₂ record created s₃ := by
    rcases step_cases hs₂ (hrejects₂ _ (by decide)) hcreate trivial with ⟨_, _, -, heq, -⟩ |
      ⟨record, _, _, heq, -, hfiled⟩ | ⟨hquiet, -, -⟩
    · simp at heq
    · obtain ⟨rfl, rfl, -, -, heq⟩ := Event.created.inj heq
      obtain rfl := Except.ok.inj heq
      exact ⟨record, rfl, hfiled⟩
    · exact absurd rfl (hquiet.2 created)
  have hstands₃ := stands_of_filed hfiled hs₂ hs₃ hcreate.sameSetup hrejects₂
    (hrows₂ record hfiled.mem (Prod.mk.inj hid).1)
  have hrescanned := hfiled.issueNumber_rescanned hs₂ hnumber
  have hlinked : created.record.identity = (file, line) := hfiled.identity_eq.trans hid
  obtain ⟨hfile, hline⟩ := Prod.mk.inj hlinked
  -- after the issue
  have hfilter : s₃.workspace.filter.Lists created.record.file := hs₃.listed _ hfiled.mem_shown
  obtain ⟨hs₄, hstands₄⟩ := stands_run hs₃ hstands₃ hsetup₃.root (hsetup₃.filter ▸ hrejects)
    hfilter hafter (fun e he => ⟨hevents e (List.mem_append_right _ he),
      hfile ▸ hspared e (List.mem_append_right _ he)⟩)
    (by rw [hfile, hline]; exact hnewest) (by rw [hsetup₃.filter, hfile]; exact hlists)
  rw [← hsetup₄.root] at hlast
  have hs₅ := settled_step hs₄ (hsetup₄.filter ▸ hrejects _ (by decide)) hlast hread
  rcases step_cases hs₄ (hsetup₄.filter ▸ hrejects _ (by decide)) hlast hread with
    ⟨respectIgnore, report', -, heq, hrescans⟩ | ⟨_, _, _, heq, -⟩ | ⟨hquiet, -⟩
  · obtain ⟨rfl, hresult⟩ := Event.scanned.inj heq
    obtain rfl := Except.ok.inj hresult
    rw [← hsetup₄.filter, ← hfile] at hlisted
    obtain ⟨r, hr, hid, hreported, hunique⟩ := hrescans.reported hs₄ hs₅ hstands₄ hlisted
    rw [hlinked] at hid hunique
    exact ⟨r, hr, isAt_iff.mpr hid, hreported.trans hrescanned, fun r' hr' hat =>
      hunique r' hr' (isAt_iff.mp hat)⟩
  · simp at heq
  · exact hquiet.elim

section Example

variable {text : String} {s₁ s₂ : Session} {report₀ : ScanReport} {created : CreatedIssue}
  {force : Bool}

/-- The scan after the first issue for a single line. -/
theorem exists_rescan_single (htext : FileTree.IsText text)
    (hscan : Step (.undisturbed "." (· = false)) (sample ".ts" (.single "a.ts" text))
      (.scanned (.ofTree (.single "a.ts" text) "." false) (.ok report₀)) s₁)
    (hread₀ : report₀.failedFiles = [])
    (hcreate : Step (.undisturbed "." (· = false)) s₁
      (.created "a.ts" 1 force (some (.ok sampleIssue)) (.ok created)) s₂)
    (hfiled : Filed s₁ (firstLine "a.ts" text) created s₂)
    (hready : s₂.workspace.store.Ready s₂.files) (hreadable : s₂.Readable) :
    Settled s₂ ∧ Stands created.record s₂ ∧ created.record.identity = ("a.ts", 1) ∧
      ∃ report s₃, Step (.undisturbed "." (· = false)) s₂
          (.scanned (.ofTree s₂.files "." false) (.ok report)) s₃ ∧
        report.failedFiles = [] ∧ Rescans s₂ false report s₃ ∧
        (Event.scanned (.ofTree s₂.files "." false) (.ok report)).Lists (.endingIn ".ts")
          "a.ts" := by
  have hsetup₁ := hscan.sameSetup
  have hsetup₂ := hsetup₁.trans hcreate.sameSetup
  have hrejects : ∀ name ∈ StateStore.ownNames, s₁.workspace.filter.accepts name = false := by
    rw [hsetup₁.filter]
    exact rejects_ts (.single "a.ts" text)
  obtain ⟨hs₁, hrows₁⟩ := settled_of_scan (s := sample ".ts" (.single "a.ts" text))
    (FileTree.holdsTexts_single FileTree.isPlain_aTs htext).wellNamed (rejects_ts _) hscan hread₀
  have hcreate' : Step (.undisturbed s₁.workspace.root (· = false)) s₁
      (.created "a.ts" 1 force (some (.ok sampleIssue)) (.ok created)) s₂ := by
    rw [hsetup₁.root]
    exact hcreate
  have hs₂ := settled_step hs₁ (hrejects _ (by decide)) hcreate' trivial
  have hlinked : created.record.identity = ("a.ts", 1) := hfiled.identity_eq
  refine ⟨hs₂, stands_of_filed hfiled hs₁ hs₂ hcreate.sameSetup hrejects (hrows₁ _ hfiled.mem),
    hlinked, ?_⟩
  obtain ⟨report, s₃, hlast, hread, hrescans, -⟩ := exists_rescan_sample
    hsetup₂ hs₂.named hready hreadable
  refine ⟨report, s₃, hlast, hread, hrescans, ?_⟩
  obtain ⟨content, hcontent⟩ := hfiled.exists_readText hs₁ hrejects (hrows₁ _ hfiled.mem)
  obtain ⟨files, hlist, -⟩ := hrescans.listed
  have hvisits : s₂.Visits false "a.ts" :=
    visits_sample hsetup₂ FileTree.isPlain_aTs (by decide) (by decide)
  rw [← hcreate.sameSetup.root] at hcontent
  have hlisted := hvisits.mem_files hcontent hlist
  rw [hsetup₂.root, hsetup₂.filter] at hlist
  have hlist : s₂.files.listFiles "." false (.endingIn ".ts") = .ok files := hlist
  exact ⟨files, hlist, hlisted⟩

/-- The number of an issue is reported by the scan after it. -/
theorem number_reported_by_next_scan : ∃ report₀ s₁ created s₂ report s₃,
    Step (.undisturbed "." (· = false)) (sample ".ts" (.single "a.ts" "x"))
        (.scanned (.ofTree (.single "a.ts" "x") "." false) (.ok report₀)) s₁ ∧
      Step (.undisturbed "." (· = false)) s₁
        (.created "a.ts" 1 false (some (.ok sampleIssue)) (.ok created)) s₂ ∧
      Step (.undisturbed "." (· = false)) s₂ (.scanned (.ofTree s₂.files "." false) (.ok report))
        s₃ ∧
      ∃ r ∈ report.records, r.isAt "a.ts" 1 ∧ r.issueNumber = some 7 := by
  have hfiles := FileTree.holdsTexts_single FileTree.isPlain_aTs FileTree.isText_x
  have hgives := ScanPattern.firstLine_mem_scanContent_x "a.ts"
  obtain ⟨report₀, s₁, created, s₂, hscan, hread₀, hcreate, hinfo, hs₁, hfiled, hready,
    hreadable⟩ := exists_filed_single FileTree.isText_x hgives false (fun _ => by decide)
      fun _ _ => isText_of_insertInto_x
  obtain ⟨-, -, -, report, s₃, hlast, hread, -, hlists⟩ :=
    exists_rescan_single FileTree.isText_x hscan hread₀ hcreate hfiled.toFiled hready hreadable
  have hnamed : (sample ".ts" (.single "a.ts" "x")).files.WellNamed := hfiles.wellNamed
  obtain ⟨r, hr, hat, hnumber, -⟩ := reported_number_of_filed hnamed (rejects_ts _) hscan
    (.nil s₁) hcreate (.nil s₂) hlast hread₀ hread (by simp) (by simp) (by rw [hinfo]; decide)
    (by simp) hlists (.inr (by simp))
  have hlasting : created.lastingNumber = 7 := by
    rw [hfiled.lastingNumber_eq hs₁, hinfo]
    decide
  exact ⟨report₀, s₁, created, s₂, report, s₃, hscan, hcreate, hlast, r, hr, hat,
    hlasting ▸ hnumber⟩

/-- A number that the line carries wins over the one of a forced issue. -/
theorem older_number_reported : ∃ report₀ s₁ created s₂ report s₃,
    Step (.undisturbed "." (· = false)) (sample ".ts" (.single "a.ts" "x [GH-#42]"))
        (.scanned (.ofTree (.single "a.ts" "x [GH-#42]") "." false) (.ok report₀)) s₁ ∧
      report₀.failedFiles = [] ∧
      Step (.undisturbed "." (· = false)) s₁
        (.created "a.ts" 1 true (some (.ok sampleIssue)) (.ok created)) s₂ ∧
      Step (.undisturbed "." (· = false)) s₂ (.scanned (.ofTree s₂.files "." false) (.ok report))
        s₃ ∧
      report.failedFiles = [] ∧ created.info.number = 7 ∧
      (∃ r ∈ report.records, r.isAt "a.ts" 1) ∧
      ∀ r ∈ report.records, r.isAt "a.ts" 1 → r.issueNumber = some 42 := by
  have htext : FileTree.IsText "x [GH-#42]" := by
    unfold FileTree.IsText
    decide +kernel
  have hgives : firstLine "a.ts" "x [GH-#42]" ∈
      ScanPattern.everyLine.scanContent "a.ts" "x [GH-#42]" := by
    rw [ScanPattern.scanContent_everyLine "a.ts" (by decide) (by decide) (by decide) (by decide)]
    exact List.mem_singleton_self _
  -- the marker is there already
  have hmarked : WriteBack.insertInto "x [GH-#42]".toList 1 sampleIssue.number
      (some "x [GH-#42]".toList) = .ok (none, .alreadyMarked) := by
    decide +kernel
  obtain ⟨report₀, s₁, created, s₂, hscan, hread₀, hcreate, hinfo, hs₁, hfiled, hready,
    hreadable⟩ := exists_filed_single htext hgives true (by simp) fun _ _ h => by
      rw [hmarked] at h
      simp at h
  obtain ⟨hs₂, hstands, hlinked, report, s₃, hlast, hread, hrescans, hlists⟩ :=
    exists_rescan_single htext hscan hread₀ hcreate hfiled.toFiled hready hreadable
  have hsetup := hscan.sameSetup.trans hcreate.sameSetup
  have hrescanned := hfiled.issueNumber_rescanned hs₁ (by rw [hinfo]; decide)
  have hlasting : created.lastingNumber = 42 := by
    rw [hfiled.lastingNumber_eq hs₁, hinfo]
    decide
  have hlast' : Step (.undisturbed s₂.workspace.root (· = false)) s₂
      (.scanned (.ofTree s₂.files "." false) (.ok report)) s₃ := by
    rw [hsetup.root]
    exact hlast
  have hrejects : s₂.workspace.filter.accepts StateStore.stateFile = false := by
    rw [hsetup.filter]
    exact rejects_ts (.single "a.ts" "x [GH-#42]") _ (by decide)
  have hs₃ := settled_step hs₂ hrejects hlast' hread
  obtain ⟨r, hr, hid, hnumber, hunique⟩ := hrescans.reported hs₂ hs₃ hstands (by
    rw [hsetup.filter, hsetup.root, (Prod.mk.inj hlinked).1]
    exact hlists)
  rw [hlinked] at hid hunique
  rw [hrescanned, hlasting] at hnumber
  refine ⟨report₀, s₁, created, s₂, report, s₃, hscan, hread₀, hcreate, hlast, hread,
    by rw [hinfo]; rfl, ⟨r, hr, isAt_iff.mpr hid⟩, fun r' hr' hat => ?_⟩
  rw [hunique r' hr' (isAt_iff.mp hat)]
  exact hnumber

end Example

end Session

end TrackedComments

import TrackedComments.Proofs.Session.FirstSteps
import TrackedComments.Proofs.Text.Bytes
import TrackedComments.Proofs.Workspace.Links

/-!
# Issues for different comments

Issues for different comments can be created in any order. Even if the comments stand in one file,
the marker of the first one changes neither the line of the second one nor the number of that line,
and what both change in the file, in the tree and among the saved records does not tell which one
came first.

## Main results

* `Workspace.Apart`: comments whose markers do not get in each other's way.
* `Workspace.Links.linkable_iff`: a link changes nothing about whether another one can follow.
* `Workspace.Links.comm`: what two links come to.
* `Workspace.createIssue_comm`: issues for different comments of a scan commute.
-/

namespace TrackedComments

open CommentRecord

/-- Whether a tracker that is asked for issues, one after another, gives each of them a given
number. It does so whatever the files hold, and leaves them alone. -/
def IssueTracker.GivesNumbers {τ : Type} [IssueTracker τ] (tracker : τ) :
    List (CommentRecord × UInt64) → Prop
  | [] => True
  | (record, number) :: rest =>
    missingSettings tracker = [] ∧ ∀ t, ∃ info tracker',
      createIssue tracker t record = (.ok info, tracker', t) ∧ info.number = number ∧
        IssueTracker.GivesNumbers tracker' rest

namespace Workspace

variable {w w' : Workspace} {t t' : FileTree} {a b r : CommentRecord}

/-! ### Comments that are apart -/

/-- Two comments whose markers do not get in each other's way. -/
structure Apart (w : Workspace) (a b : CommentRecord) : Prop where
  identity : a.identity ≠ b.identity
  temporary : w.temporaryPlaceOf a.file ≠ w.placeOf b.file
  temporary' : w.temporaryPlaceOf b.file ≠ w.placeOf a.file
  index : w.placeOf a.file = w.placeOf b.file → a.line.toNat - 1 ≠ b.line.toNat - 1

/-- It does not matter which of two comments comes first. -/
theorem Apart.symm (h : w.Apart a b) : w.Apart b a :=
  ⟨h.identity.symm, h.temporary', h.temporary, fun heq => (h.index heq.symm).symm⟩

/-- What two markers change does not tell which one came first. -/
theorem afterMarker_comm (h : w.Apart a b) (n m : UInt64) (text? text?' : Option String)
    (loc : Location) (node : Option Node) :
    w.afterMarker a n text? loc (w.afterMarker b m text?' loc node) =
      w.afterMarker b m text?' loc (w.afterMarker a n text? loc node) := by
  cases text? with
  | none => rfl
  | some _ =>
    cases text?' with
    | none => rfl
    | some _ =>
      simp only [afterMarker]
      by_cases ha : loc = w.temporaryPlaceOf a.file
      · simp [ha]
      · by_cases hb : loc = w.temporaryPlaceOf b.file
        · simp [hb]
        · simp only [if_neg ha, if_neg hb]
          by_cases hplace : loc = w.placeOf a.file
          · by_cases hplace' : loc = w.placeOf b.file
            · -- both comments stand in the same file
              have hindex := h.index (hplace.symm.trans hplace')
              simp only [if_pos hplace, if_pos hplace', Option.map_map]
              exact congrArg (node.map ·) (funext fun node => WriteBack.markNode_comm hindex node)
            · simp only [if_neg hplace']
          · simp only [if_neg hplace]

/-- The line of a comment is as it was before the marker of another one. -/
theorem lineIs_iff_of_afterMarker (h : w.Apart a b) {number : UInt64} {text? : Option String}
    (hdirs : ∀ loc, t'.get? loc = some .directory ↔ t.get? loc = some .directory)
    (hplace : t'.get? (w.placeOf b.file) =
      w.afterMarker a number text? (w.placeOf b.file) (t.get? (w.placeOf b.file))) {l : Line} :
    WriteBack.LineIs t' w.root b.file b.line l ↔ WriteBack.LineIs t w.root b.file b.line l := by
  cases text? with
  | none => exact WriteBack.lineIs_iff_of_get?_eq hdirs hplace
  | some _ =>
    simp only [afterMarker, if_neg h.temporary.symm] at hplace
    by_cases hsame : w.placeOf b.file = w.placeOf a.file
    · rw [if_pos hsame] at hplace
      exact WriteBack.lineIs_iff_of_markNode hdirs (h.index hsame.symm) hplace
    · rw [if_neg hsame] at hplace
      exact WriteBack.lineIs_iff_of_get?_eq hdirs hplace

/-! ### One issue -/

/-- Whether an issue can be created for a record: it is shown, its line reads as it did, and it is
not linked unless the issue is forced. -/
structure Linkable (w : Workspace) (t : FileTree) (r : CommentRecord) (force : Bool) : Prop where
  found : w.tree.find? r.file r.line = some r
  allowed : force = false → r.issueNumber = none
  read : WriteBack.readLine t w.root r.file r.line = .ok r.text

section One

variable {τ : Type} [IssueTracker τ] {tracker tracker' : τ} {saved : List CommentRecord}
  {number : UInt64} {rest : List (CommentRecord × UInt64)} {force : Bool}
  (hspares : w.SparesStore r) (hholds : w.store.Holds t saved)
  (hgives : IssueTracker.GivesNumbers tracker ((r, number) :: rest))

include hspares hholds hgives

/-- An issue that is created for a record that is shown has linked it. -/
theorem links_of_createIssue (hfind : w.tree.find? r.file r.line = some r)
    {created : CreatedIssue}
    (h : w.createIssue t tracker r.file r.line force = (.ok created, w', tracker', t')) :
    w.Linkable t r force ∧ IssueTracker.GivesNumbers tracker' rest ∧
      w.Links t r number (w.writeMarker t r number).1.text? w' t' := by
  rcases createIssue_cases h with ⟨_, -, hresult, -⟩ | ⟨_, _, -, -, hresult, -⟩ |
    ⟨record, info, t₁, hrecord, hcreate, hlink⟩
  · simp at hresult
  · simp at hresult
  · obtain ⟨hfound, hforce, hread⟩ := recordToLink_eq_ok hrecord
    rw [find?, hfind, Option.some_or] at hfound
    obtain rfl := Option.some.inj hfound
    obtain ⟨-, hanswers⟩ := hgives
    obtain ⟨info', tracker₁, hcreate', rfl, hrest⟩ := hanswers t
    rw [hcreate] at hcreate'
    obtain ⟨rfl, rfl, rfl⟩ : info = info' ∧ tracker' = tracker₁ ∧ t₁ = t := by
      simpa using hcreate'
    exact ⟨⟨hfind, hforce, hread⟩, hrest, links_of_link hspares hholds hfind hlink⟩

/-- An issue is created for a record for which one can be. -/
theorem exists_createIssue (hr : w.Linkable t r force) :
    ∃ created w' tracker' t',
      w.createIssue t tracker r.file r.line force = (.ok created, w', tracker', t') := by
  have hfound : w.find? t r.file r.line = some r := by rw [find?, hr.found, Option.some_or]
  obtain ⟨hmissing, hanswers⟩ := hgives
  obtain ⟨info, tracker', hcreate, -, -⟩ := hanswers t
  have hrecord := recordToLink_of_readLine hfound hr.allowed hr.read
  rw [← hmissing] at hrecord
  obtain ⟨created, w', t', hlink⟩ := exists_link hspares hholds info
  exact ⟨created, w', tracker', t', createIssue_of_link hrecord hcreate hlink⟩

end One

/-! ### After a link -/

section After

variable {number : UInt64} {text? : Option String} (h : w.Links t a number text? w' t')
  (hapart : w.Apart a b) (hspares : w.SparesStore b)

include h hapart

/-- A link leaves what the tree shows of other comments. -/
theorem Links.find?_eq : w'.tree.find? b.file b.line = w.tree.find? b.file b.line := by
  have hne : (a.linkedAs number text?).identity ≠ b.identity := hapart.identity
  rw [CommentTree.find?, CommentTree.find?, h.shown, find?_showLinked_of_ne hne]

include hspares

/-- A link leaves the lines of other comments. -/
theorem Links.lineIs_iff {l : Line} :
    WriteBack.LineIs t' w.root b.file b.line l ↔ WriteBack.LineIs t w.root b.file b.line l := by
  have hplace : w.placeOf b.file ∉ w.store.ownPlaces := fun hmem => hspares _ hmem (by simp)
  exact lineIs_iff_of_afterMarker hapart h.directory_iff (h.node _ hplace)

/-- A link changes nothing about whether another one can follow. -/
theorem Links.linkable_iff {force : Bool} : w'.Linkable t' b force ↔ w.Linkable t b force := by
  have hread {text : String} : WriteBack.readLine t' w.root b.file b.line = .ok text ↔
      WriteBack.readLine t w.root b.file b.line = .ok text := by
    simp only [WriteBack.readLine_eq_ok_iff_lineIs, h.lineIs_iff hapart hspares]
  constructor
  · rintro ⟨hfound, hallowed, htext⟩
    rw [h.setup.root] at htext
    exact ⟨(h.find?_eq hapart).symm.trans hfound, hallowed, hread.mp htext⟩
  · rintro ⟨hfound, hallowed, htext⟩
    refine ⟨(h.find?_eq hapart).trans hfound, hallowed, ?_⟩
    rw [h.setup.root]
    exact hread.mpr htext

/-- A link changes nothing about whether the marker of another comment is written. -/
theorem Links.text?_writeMarker {force : Bool} (hb : w.Linkable t b force)
    (othersNumber : UInt64) :
    (w'.writeMarker t' b othersNumber).1.text? = (w.writeMarker t b othersNumber).1.text? := by
  obtain ⟨l, hl, -⟩ := WriteBack.readLine_eq_ok_iff_lineIs.mp hb.read
  rw [h.setup.writeMarker_eq]
  exact text?_writeMarker_congr hl ((h.lineIs_iff hapart hspares).mpr hl) h.directory_iff

end After

/-! ### Two issues -/

/-- What two links in a row come to. -/
theorem Links.trans {n m : UInt64} {text? text?' : Option String} {w₁ w₂ : Workspace}
    {t₁ t₂ : FileTree} (h : w.Links t a n text? w₁ t₁) (h' : w₁.Links t₁ b m text?' w₂ t₂) :
    w₂.tree.comments = showLinked (b.linkedAs m text?') m text?'.isSome
        (showLinked (a.linkedAs n text?) n text?.isSome w.tree.comments) ∧
      w.store.Holds t₂ (StateStore.linkRecord (StateStore.linkRecord (w.store.load t)
        (a.linkedAs n text?) n) (b.linkedAs m text?') m) ∧
      ∀ loc ∉ w.store.ownPlaces, t₂.get? loc =
        w.afterMarker b m text?' loc (w.afterMarker a n text? loc (t.get? loc)) := by
  have hholds := h'.holds
  rw [h.setup.store, h.holds.load] at hholds
  refine ⟨?_, hholds, fun loc hloc => ?_⟩
  · rw [h'.shown, h.shown]
  · rw [h'.node loc (h.setup.store ▸ hloc), h.node loc hloc, h.setup.afterMarker_eq]

section Two

variable {τ : Type} [IssueTracker τ] {tracker tracker₁ tracker₂ : τ} {n m : UInt64}
  {force force' : Bool} {w₁ w₂ : Workspace} {t₁ t₂ : FileTree} (hapart : w.Apart a b)
  (hspares : w.SparesStore a) (hspares' : w.SparesStore b)
  (hholds : w.store.Holds t w.tree.comments)

include hapart hholds

/-- Two links in a row do not tell which one came first. -/
theorem Links.comm {text? text?' : Option String} {w₁' w₂' : Workspace} {t₁' t₂' : FileTree}
    (hfind : (w.tree.find? a.file a.line).isSome) (hfind' : (w.tree.find? b.file b.line).isSome)
    (h₁ : w.Links t a n text? w₁ t₁) (h₂ : w₁.Links t₁ b m text?' w₂ t₂)
    (h₁' : w.Links t b m text?' w₁' t₁') (h₂' : w₁'.Links t₁' a n text? w₂' t₂') :
    w₂'.tree.comments = w₂.tree.comments ∧ (∀ loc, t₂'.get? loc = t₂.get? loc) ∧
      ∃ text, t₂.readText w.store.statePath.toList = .ok text ∧
        t₂'.readText w.store.statePath.toList = .ok text := by
  obtain ⟨hshown, hstored, hnode⟩ := h₁.trans h₂
  obtain ⟨hshown', hstored', hnode'⟩ := h₁'.trans h₂'
  have hid : (a.linkedAs n text?).identity ≠ (b.linkedAs m text?').identity := hapart.identity
  rw [hholds.load] at hstored hstored'
  rw [StateStore.linkRecord_comm hid hfind hfind'] at hstored
  refine ⟨?_, fun loc => ?_, _, hstored.readText, hstored'.readText⟩
  · rw [hshown, hshown']
    exact commute_showLinked hid n m text?.isSome text?'.isSome w.tree.comments
  · by_cases hown : loc ∈ w.store.ownPlaces
    · exact hstored.get?_eq hstored' hown
    · rw [hnode loc hown, hnode' loc hown, afterMarker_comm hapart]

include hspares hspares'

/-- Two issues that are created one after another could each have been the first one. -/
theorem links_of_two (hgives : IssueTracker.GivesNumbers tracker [(a, n), (b, m)])
    (hfind : w.tree.find? a.file a.line = some a) (hfind' : w.tree.find? b.file b.line = some b)
    {created created' : CreatedIssue}
    (h₁ : w.createIssue t tracker a.file a.line force = (.ok created, w₁, tracker₁, t₁))
    (h₂ : w₁.createIssue t₁ tracker₁ b.file b.line force' = (.ok created', w₂, tracker₂, t₂)) :
    w.Linkable t a force ∧ w.Linkable t b force' ∧
      w.Links t a n (w.writeMarker t a n).1.text? w₁ t₁ ∧
      w₁.Links t₁ b m (w.writeMarker t b m).1.text? w₂ t₂ := by
  obtain ⟨ha, hrest, hlinks⟩ := links_of_createIssue hspares hholds hgives hfind h₁
  obtain ⟨hb₁, -, hlinks'⟩ := links_of_createIssue (hlinks.setup.sparesStore_iff.mpr hspares')
    (hlinks.setup.store ▸ hlinks.holds) hrest ((hlinks.find?_eq hapart).trans hfind') h₂
  have hb := (hlinks.linkable_iff hapart hspares').mp hb₁
  rw [hlinks.text?_writeMarker hapart hspares' hb] at hlinks'
  exact ⟨ha, hb, hlinks, hlinks'⟩

/-- Issues are created one after another for two comments for which they can be. -/
theorem exists_two (hgives : IssueTracker.GivesNumbers tracker [(a, n), (b, m)])
    (ha : w.Linkable t a force) (hb : w.Linkable t b force') :
    ∃ created w₁ tracker₁ t₁ created' w₂ tracker₂ t₂,
      w.createIssue t tracker a.file a.line force = (.ok created, w₁, tracker₁, t₁) ∧
      w₁.createIssue t₁ tracker₁ b.file b.line force' = (.ok created', w₂, tracker₂, t₂) := by
  obtain ⟨created, w₁, tracker₁, t₁, h₁⟩ := exists_createIssue hspares hholds hgives ha
  obtain ⟨-, hrest, hlinks⟩ := links_of_createIssue hspares hholds hgives ha.found h₁
  obtain ⟨created', w₂, tracker₂, t₂, h₂⟩ :=
    exists_createIssue (hlinks.setup.sparesStore_iff.mpr hspares')
      (hlinks.setup.store ▸ hlinks.holds) hrest ((hlinks.linkable_iff hapart hspares').mpr hb)
  exact ⟨created, w₁, tracker₁, t₁, created', w₂, tracker₂, t₂, h₁, h₂⟩

end Two

/-! ### Comments that a scan has found -/

/-- A file that passes the filter, and its temporary file, are no files of the store. -/
theorem sparesStore_of_lists
    (hrejects : ∀ name ∈ StateStore.ownNames, w.filter.accepts name = false)
    (hlists : w.filter.Lists r.file) : w.SparesStore r := by
  obtain ⟨names, hne, hnames, hfile, haccepts⟩ := hlists
  intro place hplace
  obtain ⟨name, hname, rfl⟩ := List.mem_map.mp hplace
  rw [hfile, temporaryPlaceOf_pathOf w hne hnames, placeOf_pathOf w hne hnames]
  exact place_not_mem hname (hrejects name hname) (hfile ▸ haccepts)

/-- Files that pass the filter stand in different places. -/
theorem file_eq_of_placeOf_eq (ha : w.filter.Lists a.file) (hb : w.filter.Lists b.file)
    (h : w.placeOf a.file = w.placeOf b.file) : a.file = b.file := by
  obtain ⟨names, hne, hnames, hfile, -⟩ := ha
  obtain ⟨others, hne', hothers, hfile', -⟩ := hb
  rw [hfile, hfile', placeOf_pathOf w hne hnames, placeOf_pathOf w hne' hothers] at h
  rw [hfile, hfile', List.append_cancel_left h]

section Temporary

variable (hrejects : ∀ file : String, ".c2i.tmp".toList <:+ file.toList →
  w.filter.accepts file = false)

include hrejects

/-- A file that passes the filter is no temporary file of another. -/
theorem temporaryPlaceOf_ne_placeOf (ha : w.filter.Lists a.file) (hb : w.filter.Lists b.file) :
    w.temporaryPlaceOf a.file ≠ w.placeOf b.file := by
  obtain ⟨names, hne, hnames, hfile, -⟩ := ha
  obtain ⟨others, hne', hothers, hfile', haccepts⟩ := hb
  rw [hfile, hfile', temporaryPlaceOf_pathOf w hne hnames, placeOf_pathOf w hne' hothers]
  intro heq
  have hpath : others = WriteBack.temporaryNames names := (List.append_cancel_left heq).symm
  rw [hfile', hpath, hrejects _ (WriteBack.suffix_pathOf_temporaryNames hne)] at haccepts
  simp at haccepts

/-- Different comments of files that pass the filter are apart. -/
theorem apart_of_lists (ha : w.filter.Lists a.file) (hb : w.filter.Lists b.file)
    (hid : a.identity ≠ b.identity) (hline : a.line ≠ 0) (hline' : b.line ≠ 0) : w.Apart a b := by
  have hpos : a.line.toNat ≠ 0 := fun h => hline (UInt32.toNat_inj.mp h)
  have hpos' : b.line.toNat ≠ 0 := fun h => hline' (UInt32.toNat_inj.mp h)
  refine ⟨hid, temporaryPlaceOf_ne_placeOf hrejects ha hb,
    temporaryPlaceOf_ne_placeOf hrejects hb ha, fun hplace hindex => hid ?_⟩
  have hsame : a.line = b.line := UInt32.toNat_inj.mp (by omega)
  exact Prod.ext (file_eq_of_placeOf_eq ha hb hplace) hsame

end Temporary

section Scan

variable {w₀ : Workspace} {t₀ : FileTree} {source : FileSource} {report : ScanReport}
  (hscan : w₀.scan t₀ source = (.ok report, w, t))

include hscan

/-- After a scan the store holds what the tree shows. -/
theorem holds_of_scan : w.store.Holds t w.tree.comments := by
  obtain ⟨-, hsave, rfl⟩ := scan_eq_ok hscan
  exact StateStore.holds_of_save_ok hsave

/-- What has been reported is what the tree shows of its comment. -/
theorem find?_of_scan (hr : r ∈ report.records) : w.tree.find? r.file r.line = some r := by
  obtain ⟨hreport, -, rfl⟩ := scan_eq_ok hscan
  have hshown : (w₀.setComments report.records).tree.find? r.file r.line =
      report.records.find? (·.isAt r.file r.line) := rfl
  rw [hshown]
  cases hfound : report.records.find? (·.isAt r.file r.line) with
  | none => exact absurd r.isAt_self (List.find?_eq_none.mp hfound r hr)
  | some r' =>
    obtain ⟨hr', hid⟩ := mem_of_find?_isAt hfound
    rw [eq_of_identity_eq_of_report hreport hr' hr hid]

variable (hheeds : source.Heeds w₀.filter)

include hheeds

/-- A comment that has been reported is in no file of the store. -/
theorem sparesStore_of_scan
    (hrejects : ∀ name ∈ StateStore.ownNames, w₀.filter.accepts name = false)
    (hr : r ∈ report.records) : w.SparesStore r := by
  obtain ⟨hreport, -, rfl⟩ := scan_eq_ok hscan
  exact sparesStore_of_lists hrejects (lists_of_report hreport hheeds hr)

/-- Different comments that have been reported are apart. -/
theorem apart_of_scan
    (hrejects : ∀ file : String, ".c2i.tmp".toList <:+ file.toList →
      w₀.filter.accepts file = false)
    (ha : a ∈ report.records) (hb : b ∈ report.records) (hne : a ≠ b) : w.Apart a b := by
  obtain ⟨hreport, -, rfl⟩ := scan_eq_ok hscan
  exact apart_of_lists hrejects (lists_of_report hreport hheeds ha)
    (lists_of_report hreport hheeds hb)
    (fun hid => hne (eq_of_identity_eq_of_report hreport ha hb hid))
    (line_ne_zero_of_report hreport ha) (line_ne_zero_of_report hreport hb)

end Scan

/-- Creating issues for different comments commutes. A scan has succeeded whose source heeds the
filter, and the filter passes neither the files of the store nor temporary files. Then two issues
are created for different comments that the scan has found, in one file or in two, by a tracker that
gives each comment its number whichever is asked for first. In that case the issues can be created
in the other order as well: the tree shows the same records in the end, every file has the same
content, and the state file can be read and has the same text. -/
theorem createIssue_comm {w₀ : Workspace} {t₀ : FileTree} {source : FileSource}
    {report : ScanReport} (hscan : w₀.scan t₀ source = (.ok report, w, t))
    (hheeds : source.Heeds w₀.filter)
    (hrejects : ∀ name ∈ StateStore.ownNames, w₀.filter.accepts name = false)
    (hrejects' : ∀ file : String, ".c2i.tmp".toList <:+ file.toList →
      w₀.filter.accepts file = false)
    (ha : a ∈ report.records) (hb : b ∈ report.records) (hne : a ≠ b) {τ : Type} [IssueTracker τ]
    {tracker tracker₁ tracker₂ : τ} {n m : UInt64}
    (hgives : IssueTracker.GivesNumbers tracker [(a, n), (b, m)])
    (hgives' : IssueTracker.GivesNumbers tracker [(b, m), (a, n)]) {force force' : Bool}
    {created created' : CreatedIssue} {w₁ w₂ : Workspace} {t₁ t₂ : FileTree}
    (h₁ : w.createIssue t tracker a.file a.line force = (.ok created, w₁, tracker₁, t₁))
    (h₂ : w₁.createIssue t₁ tracker₁ b.file b.line force' = (.ok created', w₂, tracker₂, t₂)) :
    ∃ other w₁' tracker₁' t₁' other' w₂' tracker₂' t₂',
      w.createIssue t tracker b.file b.line force' = (.ok other, w₁', tracker₁', t₁') ∧
      w₁'.createIssue t₁' tracker₁' a.file a.line force = (.ok other', w₂', tracker₂', t₂') ∧
      w₂'.tree.comments = w₂.tree.comments ∧ (∀ loc, t₂'.get? loc = t₂.get? loc) ∧
      ∃ text, t₂.readText w.store.statePath.toList = .ok text ∧
        t₂'.readText w.store.statePath.toList = .ok text := by
  have hapart := apart_of_scan hscan hheeds hrejects' ha hb hne
  have hspares := sparesStore_of_scan hscan hheeds hrejects ha
  have hspares' := sparesStore_of_scan hscan hheeds hrejects hb
  have hholds := holds_of_scan hscan
  have hfind := find?_of_scan hscan ha
  have hfind' := find?_of_scan hscan hb
  obtain ⟨ha', hb', hlinks₁, hlinks₂⟩ :=
    links_of_two hapart hspares hspares' hholds hgives hfind hfind' h₁ h₂
  -- both comments can be linked as the files are, so the second one can come first
  obtain ⟨other, w₁', tracker₁', t₁', other', w₂', tracker₂', t₂', h₁', h₂'⟩ :=
    exists_two hapart.symm hspares' hspares hholds hgives' hb' ha'
  obtain ⟨-, -, hlinks₁', hlinks₂'⟩ :=
    links_of_two hapart.symm hspares' hspares hholds hgives' hfind' hfind h₁' h₂'
  exact ⟨other, w₁', tracker₁', t₁', other', w₂', tracker₂', t₂', h₁', h₂',
    hlinks₁.comm hapart hholds (Option.isSome_of_eq_some hfind) (Option.isSome_of_eq_some hfind')
      hlinks₂ hlinks₁' hlinks₂'⟩

section Example

/-- A tracker that numbers issues by the lines of their comments. -/
structure LineTracker where

/-- A tracker that answers every request with the line of the comment. -/
instance : IssueTracker LineTracker where
  missingSettings _ := []
  createIssue tracker t record :=
    (.ok { number := record.line.toUInt64, url := "", htmlUrl := "" }, tracker, t)
  remoteUrl _ _ _ := .ok ""
  permalink _ _ _ := .ok ""

/-- The tracker gives every comment its line as a number. -/
theorem LineTracker.givesNumbers (tracker : LineTracker) (records : List CommentRecord) :
    IssueTracker.GivesNumbers tracker (records.map fun r => (r, r.line.toUInt64)) := by
  induction records with
  | nil => trivial
  | cons r rest ih => exact ⟨rfl, fun t => ⟨_, tracker, rfl, rfl, ih⟩⟩

/-- A comment in a file of two lines. -/
def commentAt (line : UInt32) (text : String) : CommentRecord :=
  { file := "a.ts", line, text, message := "" }

/-- Both lines of the file are comments. -/
theorem commentAt_mem_scanContent :
    commentAt 1 "x" ∈ ScanPattern.everyLine.scanContent "a.ts" "x\ny" ∧
      commentAt 2 "y" ∈ ScanPattern.everyLine.scanContent "a.ts" "x\ny" := by
  constructor
  · refine ScanPattern.mem_scanContent.mpr ⟨0, ⟨['x'], .lf⟩, by decide +kernel, ?_⟩
    rw [ScanPattern.scanNumbered, ScanPattern.scanLine_everyLine]
    decide +kernel
  · refine ScanPattern.mem_scanContent.mpr ⟨1, ⟨['y'], .none⟩, by decide +kernel, ?_⟩
    rw [ScanPattern.scanNumbered, ScanPattern.scanLine_everyLine]
    decide +kernel

/-- A filter for scripts rejects temporary files. -/
theorem rejects_temporary_ts (file : String) (h : ".c2i.tmp".toList <:+ file.toList) :
    (FileFilter.endingIn ".ts").accepts file = false := by
  refine Bool.eq_false_iff.mpr fun haccepts => ?_
  rw [FileFilter.accepts_endingIn] at haccepts
  have hends : ¬ utf8Bytes ".ts".toList <:+ utf8Bytes ".c2i.tmp".toList ∧
      ¬ utf8Bytes ".c2i.tmp".toList <:+ utf8Bytes ".ts".toList := by
    decide
  exact (List.suffix_or_suffix_of_suffix haccepts (utf8Bytes_suffix h)).elim hends.1 hends.2

theorem isText_twoLines : FileTree.IsText "x\ny" := by
  unfold FileTree.IsText
  decide +kernel

/-- The comments of a file of two lines can both be linked after the first scan. -/
theorem exists_scan_twoLines :
    ∃ report w t, (Session.sample ".ts" (.single "a.ts" "x\ny")).workspace.scan
        (.single "a.ts" "x\ny") (.ofTree (.single "a.ts" "x\ny") "." false) =
          (.ok report, w, t) ∧
      (commentAt 1 "x" ∈ report.records ∧ w.Linkable t (commentAt 1 "x") false) ∧
      commentAt 2 "y" ∈ report.records ∧ w.Linkable t (commentAt 2 "y") false := by
  have hfiles := FileTree.holdsTexts_single FileTree.isPlain_aTs isText_twoLines
  obtain ⟨report, s, hstep, -, hrescans, -⟩ := Session.exists_rescan_sample
    (s := Session.sample ".ts" (.single "a.ts" "x\ny")) (.refl _) hfiles.wellNamed hfiles.ready
    (Session.readable_sample hfiles)
  have hsetup := hstep.sameSetup
  have hnode : (FileTree.single "a.ts" "x\ny").get? ["a.ts"] = some (.file "x\ny".toUTF8) :=
    FileTree.get?_single _ _ _ (by decide)
  have hread := Session.readText_of_scan_sample hrescans (Session.rejects_ts .empty)
    FileTree.isPlain_aTs (by decide) hnode
  have hlinkable {r : CommentRecord} (hfile : r.file = "a.ts") (hnumber : r.issueNumber = none)
      (hgives : r ∈ ScanPattern.everyLine.scanContent "a.ts" "x\ny") :
      r ∈ report.records ∧ s.workspace.Linkable s.files r false := by
    have hmem := Session.mem_shown_sample hrescans (FileTree.get?_single _ _ _ (by decide))
      FileTree.isPlain_aTs (by decide) (by decide) hnode hgives
    rw [hrescans.shown] at hmem
    have hasRead : s.workspace.AsRead s.files r := by
      refine ⟨r, ⟨"x\ny", ?_, ?_⟩, rfl⟩
      · rw [hsetup.root, hfile]
        exact hread
      · rw [hsetup.pattern, hfile]
        exact hgives
    cases hstep with
    | scan _ hscan =>
      exact ⟨hmem, find?_of_scan hscan.scan_eq hmem, fun _ => hnumber, hasRead.readLine⟩
  have hx := hlinkable rfl rfl commentAt_mem_scanContent.1
  have hy := hlinkable rfl rfl commentAt_mem_scanContent.2
  cases hstep with
  | scan _ hscan => exact ⟨report, _, _, hscan.scan_eq, hx, hy⟩

/-- Issues for the two lines of a file, created in both orders. -/
theorem createIssue_comm_twoLines :
    ∃ report w t created w₁ tracker₁ t₁ created' w₂ tracker₂ t₂ other w₁' tracker₁' t₁' other' w₂'
        tracker₂' t₂',
      (Session.sample ".ts" (.single "a.ts" "x\ny")).workspace.scan (.single "a.ts" "x\ny")
          (.ofTree (.single "a.ts" "x\ny") "." false) = (.ok report, w, t) ∧
      w.createIssue t LineTracker.mk "a.ts" 1 false = (.ok created, w₁, tracker₁, t₁) ∧
      w₁.createIssue t₁ tracker₁ "a.ts" 2 false = (.ok created', w₂, tracker₂, t₂) ∧
      w.createIssue t LineTracker.mk "a.ts" 2 false = (.ok other, w₁', tracker₁', t₁') ∧
      w₁'.createIssue t₁' tracker₁' "a.ts" 1 false = (.ok other', w₂', tracker₂', t₂') ∧
      w₂'.tree.comments = w₂.tree.comments ∧ ∀ loc, t₂'.get? loc = t₂.get? loc := by
  have hfiles := FileTree.holdsTexts_single FileTree.isPlain_aTs isText_twoLines
  obtain ⟨report, w, t, hscan, ⟨hx, hlinkx⟩, hy, hlinky⟩ := exists_scan_twoLines
  have hheeds : (FileSource.ofTree (.single "a.ts" "x\ny") "." false).Heeds (.endingIn ".ts") :=
    FileSource.heeds_ofTree hfiles.wellNamed _ _ _
  have hrejects := Session.rejects_ts (.single "a.ts" "x\ny")
  have hne : commentAt 1 "x" ≠ commentAt 2 "y" := by decide
  have hgives := LineTracker.mk.givesNumbers [commentAt 1 "x", commentAt 2 "y"]
  have hgives' := LineTracker.mk.givesNumbers [commentAt 2 "y", commentAt 1 "x"]
  obtain ⟨created, w₁, tracker₁, t₁, created', w₂, tracker₂, t₂, h₁, h₂⟩ := exists_two
    (apart_of_scan hscan hheeds rejects_temporary_ts hx hy hne)
    (sparesStore_of_scan hscan hheeds hrejects hx) (sparesStore_of_scan hscan hheeds hrejects hy)
    (holds_of_scan hscan) hgives hlinkx hlinky
  obtain ⟨other, w₁', tracker₁', t₁', other', w₂', tracker₂', t₂', h₁', h₂', hshown, hsame, -⟩ :=
    createIssue_comm hscan hheeds hrejects rejects_temporary_ts hx hy hne hgives hgives' h₁ h₂
  exact ⟨report, w, t, created, w₁, tracker₁, t₁, created', w₂, tracker₂, t₂, other, w₁', tracker₁',
    t₁', other', w₂', tracker₂', t₂', hscan, h₁, h₂, h₁', h₂', hshown, hsame⟩

end Example

end Workspace

end TrackedComments

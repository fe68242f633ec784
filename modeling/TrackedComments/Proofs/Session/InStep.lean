import TrackedComments.Proofs.Session.Basic

/-!
# Tree and saved records in step

The tree is changed in one way and the saved records in another: a link changes the first record
with an identity in the tree and shows the linked record as a whole if its line has changed, while
the saved list is read again, linked by identity and written. Both come to the same list, because
identities are unique in both and the two lists differ in nothing but texts and numbers even while a
save has failed.

Other hands may change every file but the state file, at any time.

## Main results

* `Session.Tracked`: what holds of a session after its first scan, whatever happens.
* `Session.link_replaces`: what a link changes in the tree and among the saved records.
* `Session.tracked_step`: every step keeps what is tracked.
-/

namespace TrackedComments

open CommentRecord

/-- A record without the two fields that a link changes. -/
def CommentRecord.core (r : CommentRecord) : CommentRecord :=
  { r with text := "", issueNumber := none }

/-- Such records are for one line. -/
theorem CommentRecord.identity_eq_of_core_eq {r r' : CommentRecord} (h : r.core = r'.core) :
    r.identity = r'.identity := by
  have hfile : r.core.file = r'.core.file := by rw [h]
  have hline : r.core.line = r'.core.line := by rw [h]
  exact Prod.ext hfile hline

/-- Such records are for one file. -/
theorem CommentRecord.file_eq_of_core_eq {r r' : CommentRecord} (h : r.core = r'.core) :
    r.file = r'.file :=
  congrArg Prod.fst (identity_eq_of_core_eq h)

/-- A link changes these two fields alone. -/
theorem CommentRecord.core_linkedLike (r record : CommentRecord) (number : UInt64) :
    (r.linkedLike record number).core = r.core := rfl

/-- Records that differ in text and number alone are linked alike. -/
theorem CommentRecord.linkedLike_eq_of_core_eq {r r' : CommentRecord} (h : r.core = r'.core)
    (record : CommentRecord) (number : UInt64) :
    r.linkedLike record number = r'.linkedLike record number := by
  cases r
  cases r'
  simp only [core, linkedLike, CommentRecord.mk.injEq, and_true, true_and] at h ⊢
  exact h

namespace Session

/-- Scans of the directory at a root, and other hands that leave the state file alone. -/
def Surroundings.outside (root : String) : Surroundings where
  scans t source := ∃ respectIgnore, source = .ofTree t root respectIgnore
  edits t t' := t'.WellNamed ∧
    t'.readText (StateStore.mk root).statePath.toList =
      t.readText (StateStore.mk root).statePath.toList

/-- What holds of a session after its first scan, whatever happens. -/
structure Tracked (s : Session) : Prop where
  named : s.files.WellNamed
  /-- The state file can be read. -/
  stored : ∃ text, s.files.readText s.workspace.store.statePath.toList = .ok text
  distinct : (s.shown.map identity).Nodup
  /-- Tree and saved records differ in texts and numbers alone. -/
  alike : s.saved.map core = s.shown.map core
  listed : ∀ r ∈ s.shown, s.workspace.filter.Lists r.file

variable {s s' : Session}

/-! ### The state file -/

/-- What is loaded depends on the text of the state file alone. -/
theorem saved_congr {w : Workspace} {t t' : FileTree}
    (h : t'.readText w.store.statePath.toList = t.readText w.store.statePath.toList) :
    w.store.load t' = w.store.load t := by
  unfold StateStore.load
  rw [h]

/-- Where the state file can be read, its directory can be entered. -/
theorem Tracked.enters (h : Tracked s) : s.files.Enters s.workspace.store.dir.toList := by
  obtain ⟨text, htext⟩ := h.stored
  exact StateStore.enters_of_readText htext

/-- Other hands that leave the state file alone change nothing that is tracked. -/
theorem tracked_of_edit (hs : Tracked s) {t : FileTree} (hnamed : t.WellNamed)
    (hstate : t.readText s.workspace.store.statePath.toList =
      s.files.readText s.workspace.store.statePath.toList) :
    Tracked ⟨s.workspace, t⟩ ∧ saved ⟨s.workspace, t⟩ = s.saved := by
  obtain ⟨text, htext⟩ := hs.stored
  have hsaved : saved ⟨s.workspace, t⟩ = s.saved := saved_congr hstate
  exact ⟨⟨hnamed, ⟨text, hstate.trans htext⟩, hs.distinct,
    (congrArg (List.map core) hsaved).trans hs.alike, hs.listed⟩, hsaved⟩

/-! ### Scans and looks at the saved records -/

/-- A scan that succeeds puts tree and saved records in step. -/
theorem tracked_of_scan {w' : Workspace} {t' : FileTree} {respectIgnore : Bool}
    {report : ScanReport} (hnamed : s.files.WellNamed)
    (h : s.workspace.scan s.files (.ofTree s.files s.workspace.root respectIgnore) =
      (.ok report, w', t')) : Tracked ⟨w', t'⟩ ∧ saved ⟨w', t'⟩ = shown ⟨w', t'⟩ := by
  obtain ⟨-, hsave, hw⟩ := Workspace.scan_eq_ok h
  obtain ⟨files, -, -, -, hkeep⟩ := Workspace.scan_ofTree_eq_ok h
  have hdistinct := Workspace.nodup_identity_of_scan hnamed h
  have hlists := fun r hr => Workspace.lists_of_scan hnamed h (r := r) hr
  subst hw
  have hload : s.workspace.store.load t' = report.records := StateStore.load_of_save_ok hsave
  exact ⟨⟨hkeep hnamed, ⟨_, StateStore.readText_of_save_ok hsave⟩, hdistinct,
    congrArg (List.map core) hload, hlists⟩, hload⟩

/-- A scan that fails leaves tree and saved records as they were. -/
theorem tracked_of_scan_error {source : FileSource} {w' : Workspace} {t' : FileTree} {e : Error}
    (hs : Tracked s) (h : s.workspace.ScanAttempt s.files source (.error e) w' t') :
    Tracked ⟨w', t'⟩ ∧ shown ⟨w', t'⟩ = s.shown ∧ saved ⟨w', t'⟩ = s.saved := by
  rcases h.cases with ⟨_, -, rfl, rfl⟩ | ⟨report, e, hsave, -, rfl⟩ | ⟨_, -, hresult⟩
  · exact ⟨hs, rfl, rfl⟩
  · obtain ⟨text, htext⟩ := hs.stored
    obtain ⟨htracked, hsaved⟩ := tracked_of_edit hs (hsave.wellNamed hs.named)
      ((hsave.readText htext).trans htext.symm)
    exact ⟨htracked, rfl, hsaved⟩
  · simp at hresult

/-- For a saved record there is a shown one that differs from it in text and number alone. -/
theorem exists_mem_shown (hs : Tracked s) {r : CommentRecord} (hr : r ∈ s.saved) :
    ∃ r' ∈ s.shown, r'.core = r.core := by
  have hmem : r.core ∈ s.shown.map core := hs.alike ▸ List.mem_map_of_mem hr
  exact List.mem_map.mp hmem

/-- For a shown record there is a saved one that differs from it in text and number alone. -/
theorem exists_mem_saved (hs : Tracked s) {r : CommentRecord} (hr : r ∈ s.shown) :
    ∃ r' ∈ s.saved, r'.core = r.core := by
  have hmem : r.core ∈ s.saved.map core := hs.alike.symm ▸ List.mem_map_of_mem hr
  exact List.mem_map.mp hmem

/-- Lists that differ in texts and numbers alone have the same identities. -/
theorem map_identity_eq_of_map_core_eq {records others : List CommentRecord}
    (h : records.map core = others.map core) : records.map identity = others.map identity := by
  have hids := congrArg (List.map identity) h
  rwa [List.map_map, List.map_map] at hids

/-- No two saved records are for one line. -/
theorem Tracked.distinct_saved (hs : Tracked s) : (s.saved.map identity).Nodup := by
  rw [map_identity_eq_of_map_core_eq hs.alike]
  exact hs.distinct

/-- Loading does not change what is saved. -/
theorem saved_loadPersisted (s : Session) :
    saved ⟨s.workspace.loadPersisted s.files, s.files⟩ = s.saved := by
  have hsetup := Workspace.sameSetup_setComments s.workspace (s.workspace.store.load s.files)
  rw [saved, saved, Workspace.loadPersisted, hsetup.store]

/-- What is loaded is what is saved. -/
theorem shown_loadPersisted (s : Session) :
    shown ⟨s.workspace.loadPersisted s.files, s.files⟩ = s.saved := by
  simp only [shown, saved, Workspace.loadPersisted, Workspace.comments_setComments]

/-- What is saved can be shown. -/
theorem tracked_loadPersisted (hs : Tracked s) :
    Tracked ⟨s.workspace.loadPersisted s.files, s.files⟩ := by
  refine ⟨hs.named, hs.stored, ?_, ?_, fun r hr => ?_⟩
  · rw [shown_loadPersisted]
    exact hs.distinct_saved
  · rw [saved_loadPersisted, shown_loadPersisted]
  · rw [shown_loadPersisted] at hr
    obtain ⟨r', hr', hcore⟩ := exists_mem_shown hs hr
    rw [← file_eq_of_core_eq hcore]
    exact hs.listed r' hr'

/-! ### Links -/

/-- The record that is found is one that the tree shows. -/
theorem mem_shown_of_find? (hs : Tracked s) {file : String} {line : UInt32}
    {record : CommentRecord} (h : s.workspace.find? s.files file line = some record) :
    record ∈ s.shown ∧ record.identity = (file, line) := by
  rw [Workspace.find?, Option.or_eq_some_iff] at h
  rcases h with h | ⟨hnone, h⟩
  · exact mem_of_find?_isAt h
  · obtain ⟨hr, hid⟩ := mem_of_find?_isAt h
    obtain ⟨r', hr', hcore⟩ := exists_mem_shown hs hr
    have hat := isAt_iff.mpr ((identity_eq_of_core_eq hcore).trans hid)
    exact absurd hat (List.find?_eq_none.mp hnone r' hr')

/-- A list with another record in the place of the one with its identity. -/
def replaced (records : List CommentRecord) (record : CommentRecord) : List CommentRecord :=
  records.map fun r => if r.isAt record.file record.line then record else r

/-- A record that takes the place of another one is in the list. -/
theorem mem_replaced {records : List CommentRecord} {record r : CommentRecord} (hr : r ∈ records)
    (hid : r.identity = record.identity) : record ∈ replaced records record :=
  List.mem_map.mpr ⟨r, hr, if_pos (isAt_iff.mpr hid)⟩

/-- A record that differs in text and number alone leaves the rest of the list as it is. -/
theorem map_core_replaced {records : List CommentRecord} {record : CommentRecord}
    (h : ∀ r ∈ records, r.identity = record.identity → r.core = record.core) :
    (replaced records record).map core = records.map core := by
  rw [replaced, List.map_map]
  refine List.map_congr_left fun r hr => ?_
  rw [Function.comp_apply]
  split
  · rename_i hat
    exact (h r hr (isAt_iff.mp hat)).symm
  · rfl

/-- A row of either list that has the identity of a shown record differs from it in text and number
alone. -/
theorem core_eq_of_identity_eq (hs : Tracked s) {record r : CommentRecord}
    (hrecord : record ∈ s.shown) (hr : r ∈ s.shown ∨ r ∈ s.saved)
    (hid : r.identity = record.identity) : r.core = record.core := by
  rcases hr with hr | hr
  · rw [eq_of_identity_eq hs.distinct hr hrecord hid]
  · obtain ⟨r', hr', hcore⟩ := exists_mem_shown hs hr
    have hid' := (identity_eq_of_core_eq hcore).trans hid
    rw [← hcore, eq_of_identity_eq hs.distinct hr' hrecord hid']

/-- Lists in which a shown record has been linked are tracked again. -/
theorem tracked_of_replaced (hs : Tracked s) {w' : Workspace} {t' : FileTree}
    {record linked : CommentRecord} (hsetup : s.workspace.SameSetup w') (hnamed : t'.WellNamed)
    (hstored : ∃ text, t'.readText s.workspace.store.statePath.toList = .ok text)
    (hrecord : record ∈ s.shown) (hcore : linked.core = record.core)
    (hshown : w'.tree.comments = replaced s.shown linked)
    (hsaved : s.workspace.store.load t' = s.saved ∨
      s.workspace.store.load t' = replaced s.saved linked) : Tracked ⟨w', t'⟩ := by
  have hid := identity_eq_of_core_eq hcore
  have hcores : (replaced s.shown linked).map core = s.shown.map core :=
    map_core_replaced fun r hr heq =>
      (core_eq_of_identity_eq hs hrecord (.inl hr) (heq.trans hid)).trans hcore.symm
  have hcores' : (replaced s.saved linked).map core = s.saved.map core :=
    map_core_replaced fun r hr heq =>
      (core_eq_of_identity_eq hs hrecord (.inr hr) (heq.trans hid)).trans hcore.symm
  refine ⟨hnamed, ?_, ?_, ?_, ?_⟩
  · rwa [hsetup.store]
  · rw [shown, hshown, map_identity_eq_of_map_core_eq hcores]
    exact hs.distinct
  · rw [shown, hshown, hcores, saved, hsetup.store, ← hs.alike]
    rcases hsaved with hsaved | hsaved
    · rw [hsaved]
    · rw [hsaved, hcores']
  · rw [shown, hshown, hsetup.filter]
    intro r hr
    obtain ⟨r', hr', rfl⟩ := List.mem_map.mp hr
    split
    · exact file_eq_of_core_eq hcore ▸ hs.listed record hrecord
    · exact hs.listed r' hr'

/-- Writing a marker for a shown record leaves the state file as it was, however it ends. -/
theorem readText_of_markerAttempt (hs : Tracked s)
    (hrejects : s.workspace.filter.accepts StateStore.stateFile = false) {t t' : FileTree}
    {record : CommentRecord} {number : UInt64} {marker : MarkerWrite} {text : String}
    (hrecord : record ∈ s.shown) (h : s.workspace.MarkerAttempt t record number marker t')
    (htext : t.readText s.workspace.store.statePath.toList = .ok text) :
    t'.readText s.workspace.store.statePath.toList = .ok text ∧ (t.WellNamed → t'.WellNamed) := by
  obtain ⟨names, hne, hnames, hfile, haccepts⟩ := hs.listed record hrecord
  obtain ⟨hframe, hkeep⟩ := h.changesOnly hne hnames hfile
  have hplace := Workspace.place_not_mem (w := s.workspace) (by decide) hrejects (hfile ▸ haccepts)
  rw [← StateStore.location_statePath] at hplace
  exact ⟨hframe.readText hplace htext, hkeep⟩

section Link

variable {record : CommentRecord} {number : UInt64} {marker : MarkerWrite}

/-- The tree shows a linked record in its place. -/
theorem comments_showLink_eq_replaced (hs : Tracked s) (hrecord : record ∈ s.shown) :
    (s.workspace.showLink (Workspace.linkedRecord record number marker) number
      marker).tree.comments = replaced s.shown (Workspace.linkedRecord record number marker) := by
  obtain ⟨hfile, hline⟩ := Prod.mk.inj (Workspace.identity_linkedRecord record number marker)
  rw [Workspace.comments_showLink hs.distinct fun r hr hid =>
    eq_of_identity_eq hs.distinct hr hrecord hid, replaced, hfile, hline]
  rfl

/-- Linking among the saved records puts the linked record in its place. -/
theorem linkRecord_eq_replaced (hs : Tracked s) (hrecord : record ∈ s.shown) :
    StateStore.linkRecord s.saved (Workspace.linkedRecord record number marker) number =
      replaced s.saved (Workspace.linkedRecord record number marker) := by
  have hid := Workspace.identity_linkedRecord record number marker
  obtain ⟨r, hr, hcore⟩ := exists_mem_saved hs hrecord
  rw [StateStore.linkRecord_eq_map hs.distinct_saved
    ⟨r, hr, (identity_eq_of_core_eq hcore).trans hid.symm⟩, replaced]
  refine List.map_congr_left fun r hr => ?_
  split
  · rename_i hat
    have hcore := core_eq_of_identity_eq hs hrecord (.inr hr) ((isAt_iff.mp hat).trans hid)
    rw [linkedLike_eq_of_core_eq hcore, ← Workspace.linkedRecord_eq]
  · rfl

end Link

/-- A link shows the linked record in its place, and saves it in its place unless the save fails.
The files may have changed since the record was found, but the state file has not. -/
theorem link_replaces (hs : Tracked s) {t t' : FileTree} {w' : Workspace} {record : CommentRecord}
    {info : IssueInfo} {result : Except Error CreatedIssue}
    (hrejects : s.workspace.filter.accepts StateStore.stateFile = false) (hnamed : t.WellNamed)
    (hstate : t.readText s.workspace.store.statePath.toList =
      s.files.readText s.workspace.store.statePath.toList)
    (hrecord : record ∈ s.shown) (h : s.workspace.LinkAttempt t record info result w' t') :
    ∃ linked, linked.identity = record.identity ∧ Tracked ⟨w', t'⟩ ∧
      shown ⟨w', t'⟩ = replaced s.shown linked ∧
      ((∃ path message, result = .error (.stateSave path message) ∧ saved ⟨w', t'⟩ = s.saved) ∨
        ∃ marker, result = .ok { info, record := linked, marker } ∧
          saved ⟨w', t'⟩ = replaced s.saved linked) := by
  obtain ⟨marker, t₁, result', hmarker, rfl, hsave, hresult⟩ := h
  obtain ⟨text, htext⟩ := hs.stored
  obtain ⟨htext₁, hkeep⟩ :=
    readText_of_markerAttempt hs hrejects hrecord hmarker (hstate.trans htext)
  have hnamed' := hsave.wellNamed (hkeep hnamed)
  have hload₁ : s.workspace.store.load t₁ = s.saved := saved_congr (htext₁.trans htext.symm)
  rw [hload₁, linkRecord_eq_replaced hs hrecord] at hsave
  have hshown : (s.workspace.showLink (Workspace.linkedRecord record info.number marker)
      info.number marker).tree.comments =
        replaced s.shown (Workspace.linkedRecord record info.number marker) :=
    comments_showLink_eq_replaced hs hrecord
  have hid := Workspace.identity_linkedRecord record info.number marker
  have hcore : (Workspace.linkedRecord record info.number marker).core = record.core := by
    rw [Workspace.linkedRecord_eq, core_linkedLike]
  have hsetup := Workspace.sameSetup_showLink s.workspace
    (Workspace.linkedRecord record info.number marker) info.number marker
  generalize Workspace.linkedRecord record info.number marker = linked at *
  generalize s.workspace.showLink linked info.number marker = w' at *
  have hsaved_eq : saved ⟨w', t'⟩ = s.workspace.store.load t' := by
    rw [saved, hsetup.store]
  refine ⟨linked, hid, ?_⟩
  cases result' with
  | error e =>
    obtain ⟨message, rfl⟩ := hsave.exists_message
    have htext' := hsave.readText htext₁
    have hload' : s.workspace.store.load t' = s.saved := saved_congr (htext'.trans htext.symm)
    exact ⟨tracked_of_replaced hs hsetup hnamed' ⟨text, htext'⟩ hrecord hcore hshown (.inl hload'),
      hshown, .inl ⟨_, _, hresult, hsaved_eq.trans hload'⟩⟩
  | ok _ =>
    have hload' := StateStore.load_of_save_ok hsave.save_eq
    exact ⟨tracked_of_replaced hs hsetup hnamed' ⟨_, StateStore.readText_of_save_ok hsave.save_eq⟩
      hrecord hcore hshown (.inr hload'), hshown, .inr ⟨marker, hresult, hsaved_eq.trans hload'⟩⟩

/-! ### Steps -/

/-- Whether saved and shown records can differ after an event, when they can or cannot before it. -/
def outOfStep (before : Bool) : Event → Bool
  | .scanned _ (.ok _) | .loaded => false
  | .created _ _ _ _ (.error (.stateSave _ _)) => true
  | _ => before

/-- Every step keeps what is tracked, and leaves tree and saved records in step unless it fails to
save a link. -/
theorem tracked_step (hs : Tracked s)
    (hrejects : s.workspace.filter.accepts StateStore.stateFile = false) {event : Event}
    (h : Step (.outside s.workspace.root) s event s') :
    Tracked s' ∧ ∀ before, (before = false → s.saved = s.shown) →
      outOfStep before event = false → s'.saved = s'.shown := by
  cases h with
  | scan hsource hscan =>
    rename_i source result w t
    obtain ⟨respectIgnore, rfl⟩ := hsource
    cases result with
    | ok report =>
      obtain ⟨htracked, hstep⟩ := tracked_of_scan hs.named hscan.scan_eq
      exact ⟨htracked, fun _ _ _ => hstep⟩
    | error e =>
      obtain ⟨htracked, hshown, hsaved⟩ := tracked_of_scan_error hs hscan
      exact ⟨htracked, fun before hbefore hout => by rw [hshown, hsaved]; exact hbefore hout⟩
  | load =>
    refine ⟨tracked_loadPersisted hs, fun _ _ _ => ?_⟩
    rw [saved_loadPersisted, shown_loadPersisted]
  | edit hedit =>
    obtain ⟨htracked, hsaved⟩ := tracked_of_edit hs hedit.1 hedit.2
    exact ⟨htracked, fun before hbefore hout => hsaved.trans (hbefore hout)⟩
  | create hedits hcreate =>
    rename_i τ _ tracker file line force result w t
    rcases hcreate.cases with ⟨e, hrefused, rfl, rfl, rfl⟩ |
      ⟨record, e, _, hrecord, hcreated, rfl, rfl⟩ |
      ⟨record, info, _, t₁, hrecord, hcreated, hlink⟩
    · refine ⟨hs, fun before hbefore hout => hbefore ?_⟩
      unfold outOfStep at hout
      split at hout <;> simp_all
    · have hedit := hedits record
      rw [hcreated] at hedit
      obtain ⟨htracked, hsaved⟩ := tracked_of_edit hs hedit.1 hedit.2
      exact ⟨htracked, fun before hbefore hout => hsaved.trans (hbefore hout)⟩
    · have hedit := hedits record
      rw [hcreated] at hedit
      obtain ⟨hmem, -⟩ := mem_shown_of_find? hs (Workspace.recordToLink_eq_ok hrecord).1
      obtain ⟨linked, -, htracked, hshown, hsaved⟩ :=
        link_replaces hs hrejects hedit.1 hedit.2 hmem hlink
      refine ⟨htracked, fun before hbefore hout => ?_⟩
      rcases hsaved with ⟨path, message, rfl, -⟩ | ⟨marker, rfl, hsaved⟩
      · simp [outOfStep] at hout
      · rw [hshown, hsaved, hbefore hout]

end Session

end TrackedComments

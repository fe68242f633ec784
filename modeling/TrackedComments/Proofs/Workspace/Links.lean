import TrackedComments.Proofs.Record.Commuting
import TrackedComments.Proofs.Workspace.Lines
import TrackedComments.Proofs.WriteBack.Marks

/-!
# Links as changes

A link that is saved changes three things, each as a function of what was there: the records that
the tree shows, the saved records, and what stands at each location that is not the store's. Of the
marker no more is needed than the text that its line reads with it, if it has been written; and that
depends on the line and on the directories, not on anything else.

## Main results

* `Workspace.afterMarker_of_writeMarker`: what a marker does to every location.
* `Workspace.text?_writeMarker_congr`: what a marker depends on.
* `Workspace.links_of_link`: what a link does that is saved.
* `Workspace.exists_link`: a link is saved where something has been saved before.
-/

namespace TrackedComments

open CommentRecord

/-! ### Linked records -/

/-- The line as it reads with a marker, if the marker has been written. -/
def MarkerWrite.text? : MarkerWrite → Option String
  | .written (.inserted text) => some text
  | _ => none

/-- There is a new text just when a marker has been inserted. -/
theorem MarkerWrite.text?_eq_some_iff {marker : MarkerWrite} {text : String} :
    marker.text? = some text ↔ marker = .written (.inserted text) := by
  unfold text?
  split <;> simp_all

/-- A record linked to an issue, with the text that its line has now. -/
def CommentRecord.linkedAs (r : CommentRecord) (number : UInt64) (text? : Option String) :
    CommentRecord :=
  { r with text := text?.getD r.text, issueNumber := some number }

/-- The records that a tree shows after a record has been linked, whose line has changed or not. -/
def showLinked (linked : CommentRecord) (number : UInt64) (changed : Bool) :
    List CommentRecord → List CommentRecord :=
  (if changed then modifyAll linked.file linked.line fun _ => linked else id) ∘
    modifyFirst linked.file linked.line (·.withIssue number)

/-- A link of one record leaves what is shown of others. -/
theorem find?_showLinked_of_ne {linked other : CommentRecord}
    (hne : linked.identity ≠ other.identity) (number : UInt64) (changed : Bool)
    (records : List CommentRecord) :
    (showLinked linked number changed records).find? (·.isAt other.file other.line) =
      records.find? (·.isAt other.file other.line) := by
  have hfirst := find?_isAt_modifyFirst_of_ne hne (staysAt_withIssue _ _ number) records
  unfold showLinked
  split
  · exact (find?_isAt_modifyAll_of_ne hne (fun _ _ => linked.isAt_self) _).trans hfirst
  · exact hfirst

/-- What a tree shows does not tell in which order two records have been linked. -/
theorem commute_showLinked {linked other : CommentRecord}
    (hne : linked.identity ≠ other.identity) (number othersNumber : UInt64)
    (changed othersChanged : Bool) :
    Function.Commute (showLinked linked number changed)
      (showLinked other othersNumber othersChanged) := by
  have hnumber (r : CommentRecord) (number : UInt64) := staysAt_withIssue r.file r.line number
  have hlinked (r : CommentRecord) : StaysAt r.file r.line fun _ => r := fun _ _ => r.isAt_self
  have hfirst := commute_modifyFirst hne (hnumber linked number) (hnumber other othersNumber)
  have hmixed := commute_modifyFirst_modifyAll hne (hnumber linked number) (hlinked other)
  have hmixed' :=
    commute_modifyFirst_modifyAll hne.symm (hnumber other othersNumber) (hlinked linked)
  have hall := commute_modifyAll hne (hlinked linked) (hlinked other)
  unfold showLinked
  refine Function.Commute.comp_left (Function.Commute.comp_right ?_ ?_)
    (Function.Commute.comp_right ?_ hfirst)
  · cases changed <;> cases othersChanged
    · exact .id_left
    · exact .id_left
    · exact .id_right
    · exact hall
  · cases changed
    · exact .id_left
    · exact hmixed'.symm
  · cases othersChanged
    · exact .id_right
    · exact hmixed

namespace Workspace

variable {w w' : Workspace} {t t' : FileTree} {r : CommentRecord} {number : UInt64}

/-- The record that is shown after a link has the text that its line has now. -/
theorem linkedRecord_eq_linkedAs (r : CommentRecord) (number : UInt64) (marker : MarkerWrite) :
    linkedRecord r number marker = r.linkedAs number marker.text? := by
  rcases marker with (text | _) | _ <;> rfl

/-- What the tree shows after a link of a record that it shows. -/
theorem comments_showLink_of_find? {linked : CommentRecord} {marker : MarkerWrite}
    (h : (w.tree.find? linked.file linked.line).isSome) :
    (w.showLink linked number marker).tree.comments =
      showLinked linked number marker.text?.isSome w.tree.comments := by
  have hupdate : (w.tree.update linked.file linked.line number).2.comments =
      modifyFirst linked.file linked.line (·.withIssue number) w.tree.comments := by
    rw [CommentTree.update, if_pos h]
    rfl
  rcases marker with (text | _) | _
  · exact congrArg (modifyAll linked.file linked.line fun _ => linked) hupdate
  · exact hupdate
  · exact hupdate

/-! ### Markers -/

/-- Where the temporary file for a file below the root stands. -/
def temporaryPlaceOf (w : Workspace) (file : String) : Location :=
  Path.location (WriteBack.temporaryPath (Path.join w.root.toList file.toList))

/-- The temporary file for a path of proper names stands below the root too. -/
theorem temporaryPlaceOf_pathOf (w : Workspace) {names : Location} (hne : names ≠ [])
    (hnames : AreNames names) : w.temporaryPlaceOf (pathOf names) =
      Path.location w.root.toList ++ WriteBack.temporaryNames names :=
  WriteBack.location_temporaryPath _ hne hnames

/-- What stands at a location after the marker of an issue has been written or not, by what stood
there. -/
def afterMarker (w : Workspace) (r : CommentRecord) (number : UInt64) (text? : Option String)
    (loc : Location) (node : Option Node) : Option Node :=
  match text? with
  | none => node
  | some _ =>
    if loc = w.temporaryPlaceOf r.file then none
    else if loc = w.placeOf r.file then node.map (WriteBack.markNode r.line number)
    else node

/-- What a marker does to every location, whether it is written or not. -/
theorem afterMarker_of_writeMarker {marker : MarkerWrite}
    (h : w.writeMarker t r number = (marker, t')) :
    (∀ loc, t'.get? loc = w.afterMarker r number marker.text? loc (t.get? loc)) ∧
      t.ChangesOnly [w.temporaryPlaceOf r.file, w.placeOf r.file] t' := by
  obtain ⟨result, hinsert, hmarker⟩ := writeMarker_eq h
  rcases WriteBack.insert_cases hinsert with ⟨rfl, hnot⟩ |
    ⟨content, updated, text, hread, hinto, hresult, hnew, hgone, hframe, -⟩
  · refine ⟨fun loc => ?_, .refl _ _⟩
    have hnone : marker.text? = none := by
      refine Option.eq_none_iff_forall_ne_some.mpr fun text htext => hnot text ?_
      exact (hmarker text).mp (MarkerWrite.text?_eq_some_iff.mp htext)
    rw [hnone, afterMarker]
  · refine ⟨fun loc => ?_, hframe⟩
    have hsome : marker.text? = some text :=
      MarkerWrite.text?_eq_some_iff.mpr ((hmarker text).mpr hresult)
    rw [hsome]
    simp only [afterMarker]
    split_ifs with htemporary hplace
    · rw [htemporary]
      exact hgone
    · have hold := (FileTree.read_eq_ok_iff.mp (FileTree.readText_eq_ok_iff.mp hread)).2
      have hmarked := (FileTree.read_eq_ok_iff.mp (FileTree.readText_eq_ok_iff.mp hnew)).2
      rw [hplace, placeOf, hold, hmarked, Option.map_some, WriteBack.markNode_file,
        WriteBack.insertInto_eq_markLine hinto]
    · exact hframe.get?_eq loc (by simpa using ⟨htemporary, hplace⟩)

section Congruence

variable {l : Line} (hl : WriteBack.LineIs t w.root r.file r.line l)
  (hl' : WriteBack.LineIs t' w.root r.file r.line l)
  (hdirs : ∀ loc, t'.get? loc = some .directory ↔ t.get? loc = some .directory)

include hl hl' hdirs

/-- A marker is written wherever the line and the directories are the same. -/
theorem text?_writeMarker_of_lineIs {text : String}
    (h : (w.writeMarker t r number).1.text? = some text) :
    (w.writeMarker t' r number).1.text? = some text := by
  obtain ⟨⟨marker, u⟩, hmarker⟩ : ∃ written, w.writeMarker t r number = written := ⟨_, rfl⟩
  rw [hmarker] at h
  obtain ⟨result, hinsert, hresult⟩ := writeMarker_eq hmarker
  rw [(hresult text).mp (MarkerWrite.text?_eq_some_iff.mp h)] at hinsert
  obtain ⟨u', hinsert'⟩ := WriteBack.insert_congr hl hl' hdirs hinsert
  rw [writeMarker, hinsert']
  rfl

/-- Whether a marker is written depends on the line and on the directories alone. -/
theorem text?_writeMarker_congr :
    (w.writeMarker t' r number).1.text? = (w.writeMarker t r number).1.text? :=
  Option.ext fun _ =>
    ⟨text?_writeMarker_of_lineIs hl' hl fun loc => (hdirs loc).symm,
      text?_writeMarker_of_lineIs hl hl' hdirs⟩

end Congruence

/-! ### Links -/

/-- Whether the marker of a comment is written without touching the files of the store. -/
def SparesStore (w : Workspace) (r : CommentRecord) : Prop :=
  ∀ place ∈ w.store.ownPlaces, place ∉ [w.temporaryPlaceOf r.file, w.placeOf r.file]

/-- What a link does that is saved. -/
structure Links (w : Workspace) (t : FileTree) (r : CommentRecord) (number : UInt64)
    (text? : Option String) (w' : Workspace) (t' : FileTree) : Prop where
  setup : SameSetup w w'
  shown : w'.tree.comments =
    showLinked (r.linkedAs number text?) number text?.isSome w.tree.comments
  holds : w.store.Holds t'
    (StateStore.linkRecord (w.store.load t) (r.linkedAs number text?) number)
  directory_iff : ∀ loc, t'.get? loc = some .directory ↔ t.get? loc = some .directory
  node : ∀ loc ∉ w.store.ownPlaces, t'.get? loc = w.afterMarker r number text? loc (t.get? loc)

section Saved

variable {saved : List CommentRecord} (hspares : w.SparesStore r)
  (hholds : w.store.Holds t saved)

include hspares hholds

/-- A link that succeeds has been saved, with the marker that has been written or not. -/
theorem links_of_link (hfind : w.tree.find? r.file r.line = some r) {info : IssueInfo}
    {created : CreatedIssue} (h : w.link t r info = (.ok created, w', t')) :
    w.Links t r info.number (w.writeMarker t r info.number).1.text? w' t' := by
  obtain ⟨marker, t₁, result, hmarker, rfl, hsave, hresult⟩ := link_cases h
  obtain ⟨hnode, hframe⟩ := afterMarker_of_writeMarker hmarker
  have hholds₁ := hholds.of_changesOnly hframe hspares
  have hsetup := sameSetup_showLink w (linkedRecord r info.number marker) info.number marker
  have hsave : w.store.save t₁ (StateStore.linkRecord (w.store.load t)
      (linkedRecord r info.number marker) info.number) = (t', .ok ()) := by
    rw [hholds₁.load, ← hholds.load] at hsave
    cases result with
    | error e => simp [Except.map] at hresult
    | ok _ => exact hsave
  have hframe' := StateStore.changesOnly_save hholds₁.enters hsave
  rw [hmarker]
  rw [linkedRecord_eq_linkedAs] at hsave hsetup ⊢
  refine ⟨hsetup, comments_showLink_of_find? (Option.isSome_of_eq_some hfind),
    StateStore.holds_of_save_ok hsave, fun loc => ?_, fun loc hloc => ?_⟩
  · exact (hframe'.directory_iff loc).trans (hframe.directory_iff loc)
  · rw [hframe'.get?_eq loc hloc, hnode]

/-- A link is saved where something has been saved before. -/
theorem exists_link (info : IssueInfo) :
    ∃ created w' t', w.link t r info = (.ok created, w', t') := by
  obtain ⟨⟨result, w', t'⟩, h⟩ : ∃ linked, w.link t r info = linked := ⟨_, rfl⟩
  obtain ⟨marker, t₁, result', hmarker, rfl, hsave, rfl⟩ := link_cases h
  have hholds₁ := hholds.of_changesOnly (afterMarker_of_writeMarker hmarker).2 hspares
  obtain ⟨t₂, hsave', -⟩ := hholds₁.ready.exists_save (StateStore.linkRecord (w.store.load t₁)
    (linkedRecord r info.number marker) info.number)
  obtain ⟨rfl, rfl⟩ := Prod.mk.inj (hsave'.symm.trans hsave)
  exact ⟨_, _, _, h⟩

end Saved

/-! ### The same setup -/

/-- Workspaces with the same setup agree on whether the files of the store are spared. -/
theorem SameSetup.sparesStore_iff (h : SameSetup w w') : w'.SparesStore r ↔ w.SparesStore r := by
  rw [SparesStore, SparesStore, h.store, temporaryPlaceOf, temporaryPlaceOf, placeOf, placeOf,
    h.root]

/-- Workspaces with the same setup write markers alike. -/
theorem SameSetup.writeMarker_eq (h : SameSetup w w') :
    w'.writeMarker t r number = w.writeMarker t r number := by
  rw [writeMarker, writeMarker, h.root]

/-- Workspaces with the same setup agree on what a marker does to a location. -/
theorem SameSetup.afterMarker_eq (h : SameSetup w w') (text? : Option String) :
    w'.afterMarker r number text? = w.afterMarker r number text? := by
  unfold afterMarker temporaryPlaceOf placeOf
  rw [h.root]

end Workspace

end TrackedComments

import TrackedComments.Proofs.Source.Listing
import TrackedComments.Proofs.Store.Save

/-!
# Trees that hold nothing but text files

A directory that can be entered reads its files by their names. The root of a tree can always be
entered, and if the tree holds nothing but text files, then a store in its root saves every list.

## Main results

* `FileTree.Enters.readText`: a file in a directory is read.
* `FileTree.HoldsTexts.ready`: where records can be saved.
-/

namespace TrackedComments

namespace FileTree

variable {t t' : FileTree}

/-! ### Files in a directory -/

/-- The current directory is the root of the tree. -/
theorem location_current : Path.location ".".toList = [] := by
  decide

/-- Every tree can be entered at its root. -/
theorem enters_current (t : FileTree) : t.Enters ".".toList := by
  rw [show ".".toList = ['.'] from by decide]
  exact ⟨by decide, rfl, rfl⟩

/-- Every tree lists the files in its root. -/
theorem exists_listFiles_current (t : FileTree) (respectIgnore : Bool) (filter : FileFilter) :
    ∃ files, t.listFiles "." respectIgnore filter = .ok files := by
  unfold listFiles
  rw [show ".".toList = ['.'] from by decide]
  exact ⟨_, rfl⟩

/-- Whether a name is that of a file that the file system can store. -/
structure IsPlain (name : String) : Prop where
  isName : IsName name.toList
  not_mem_nul : '\x00' ∉ name.toList
  short : name.utf8ByteSize ≤ maxNameLength

/-- A filter lists every plain name that it accepts. -/
theorem IsPlain.lists {name : String} (h : IsPlain name) {filter : FileFilter}
    (haccepts : filter.accepts name) : filter.Lists name :=
  ⟨[name], by simp, areNames_singleton.mpr h.isName, (pathOf_singleton name).symm, haccepts⟩

/-- A file in a directory that can be entered is read. -/
theorem Enters.readText {root : List Char} (h : t.Enters root) {name text : String}
    (hname : IsPlain name)
    (hnode : t.get? (Path.location root ++ [name]) = some (.file text.toUTF8)) :
    t.readText (Path.join root name.toList) = .ok text := by
  have hlocate := h.locate_join hname.isName hname.not_mem_nul hname.short
  rw [readText_eq_ok_iff, read_eq_ok_iff, Path.location_join_name root hname.isName]
  exact ⟨hlocate, hnode⟩

/-- Whether a text has no zero byte where a source looks for one. -/
def IsText (text : String) : Prop :=
  (text.toUTF8.toList.take sniffLength).contains 0 = false

/-- A text without a zero byte is the content of a source file. -/
theorem readSource_of_readText {root file text : String}
    (h : t.readText (Path.join root.toList file.toList) = .ok text) (htext : IsText text) :
    t.readSource root file = .ok text := by
  have hread := readText_eq_ok_iff.mp h
  unfold readSource pathBelow
  dsimp only
  rw [String.toList_ofList, hread]
  dsimp only
  rw [htext, if_neg Bool.false_ne_true, fromUTF8?_toUTF8]

/-- The content of a source file has no zero byte where the source looks for one. -/
theorem isText_of_readSource {root file text : String} (h : t.readSource root file = .ok text) :
    IsText text := by
  unfold readSource at h
  dsimp only at h
  split at h
  · simp at h
  · split at h
    · simp at h
    · split at h
      · simp at h
      · rename_i hzero _ text' htext
        obtain rfl := Except.ok.inj h
        obtain rfl := fromUTF8?_eq_some_iff.mp htext
        exact Bool.eq_false_iff.mpr hzero

/-- The content of a source file is the text that is read there, if it has no zero byte. -/
theorem readSource_eq_ok_iff {root file text : String} :
    t.readSource root file = .ok text ↔
      t.readText (Path.join root.toList file.toList) = .ok text ∧ IsText text :=
  ⟨fun h => ⟨readText_of_readSource h, isText_of_readSource h⟩,
    fun h => readSource_of_readText h.1 h.2⟩

/-- Whether a tree holds nothing but text files in its root. -/
def HoldsTexts (t : FileTree) : Prop :=
  ∀ loc node, loc ≠ [] → t.get? loc = some node →
    ∃ name text, loc = [name] ∧ IsPlain name ∧ node = .file text.toUTF8 ∧ IsText text

/-- The empty tree holds nothing else. -/
theorem holdsTexts_empty : empty.HoldsTexts := by
  intro loc node hne hnode
  simp [get?, hne, empty] at hnode

/-- A text file may be put into the root of such a tree. -/
theorem HoldsTexts.set (h : t.HoldsTexts) {name text : String} (hname : IsPlain name)
    (htext : IsText text) : (t.set [name] (.file text.toUTF8)).HoldsTexts := by
  intro loc node hne hnode
  rw [get?_set hne] at hnode
  split at hnode
  · rename_i hloc
    exact ⟨name, text, hloc, hname, (Option.some.inj hnode).symm, htext⟩
  · exact h loc node hne hnode

/-- The tree that holds a single text. -/
def single (name text : String) : FileTree :=
  empty.set [name] (.file text.toUTF8)

/-- The tree of a single text holds nothing else. -/
theorem holdsTexts_single {name text : String} (hname : IsPlain name) (htext : IsText text) :
    (single name text).HoldsTexts :=
  holdsTexts_empty.set hname htext

/-- The text stands in its place, and nothing stands in any other. -/
theorem get?_single (name text : String) (loc : Location) (hne : loc ≠ []) :
    (single name text).get? loc = if loc = [name] then some (.file text.toUTF8) else none := by
  rw [single, get?_set hne]
  simp [get?, hne, empty]

/-- The single text is read from its file. -/
theorem readText_single {name : String} (hname : IsPlain name) (text : String) :
    (single name text).readText (Path.join ".".toList name.toList) = .ok text := by
  refine (enters_current _).readText hname ?_
  rw [location_current]
  exact (get?_single name text [name] (by simp)).trans (if_pos rfl)

theorem isPlain_aTs : IsPlain "a.ts" :=
  ⟨by decide, by decide, by decide⟩

theorem isText_x : IsText "x" := by
  unfold IsText
  decide +kernel

/-- A tree with nothing but text files is well named. -/
theorem HoldsTexts.wellNamed (h : t.HoldsTexts) : t.WellNamed := by
  intro loc hloc
  obtain ⟨⟨loc, node⟩, hmem, rfl⟩ := List.mem_map.mp hloc
  by_cases hne : loc = []
  · exact hne ▸ areNames_nil
  · obtain ⟨name, text, rfl, hname, -⟩ := h loc node hne ((mem_entries_iff hne).mp hmem)
    exact areNames_singleton.mpr hname.isName

/-- In a tree with nothing but text files a store in the root is ready. -/
theorem HoldsTexts.ready (h : t.HoldsTexts) : (StateStore.mk ".").Ready t := by
  refine ⟨enters_current t, fun place hplace hdir => ?_⟩
  have hne : place ≠ [] := by
    obtain ⟨name, -, rfl⟩ := List.mem_map.mp hplace
    simp [StateStore.place]
  obtain ⟨_, _, -, -, hnode, -⟩ := h place .directory hne hdir
  simp at hnode

/-- There is a tree from which a list is loaded, and whose store is ready. -/
theorem exists_load_eq (records : List CommentRecord) :
    ∃ t, (StateStore.mk ".").load t = records ∧ (StateStore.mk ".").Ready t := by
  obtain ⟨t, hsave, hready⟩ := holdsTexts_empty.ready.exists_save records
  exact ⟨t, StateStore.load_of_save_ok hsave, hready⟩

end FileTree

end TrackedComments

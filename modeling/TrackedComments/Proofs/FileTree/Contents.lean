import TrackedComments.Proofs.FileTree.Frame

/-!
# Contents of files

What a file holds, and changes of a tree that let files elsewhere keep their contents. Other than in
a frame, directories may be created. A file may also be written piece by piece from an offset on, in
which case what stood there before stays where no piece comes.

## Main results

* `FileTree.KeepsContents`: changes after which all other files read as before.
* `FileTree.keepsContents_createDirectoriesFrom`: creating directories touches no file.
* `FileTree.contentAt?_writeAt`: a file that is written in pieces from its start holds what has been
  written so far.
-/

namespace TrackedComments

namespace FileTree

/-- What the file at a location holds, if a file stands there. -/
def contentAt? (t : FileTree) (loc : Location) : Option ByteArray :=
  match t.get? loc with
  | some (.file content) => some content
  | _ => none

/-- A location has a content just when a file with this content stands there. -/
theorem contentAt?_eq_some_iff {t : FileTree} {loc : Location} {content : ByteArray} :
    t.contentAt? loc = some content ↔ t.get? loc = some (.file content) := by
  unfold contentAt?
  split <;> simp_all

/-- Where nothing stands there is no content. -/
theorem contentAt?_eq_none {t : FileTree} {loc : Location} (h : t.get? loc = none) :
    t.contentAt? loc = none := by
  rw [contentAt?, h]

/-- A path that is read leads to a file with that content. -/
theorem contentAt?_of_read {t : FileTree} {path : List Char} {content : ByteArray}
    (h : t.read path = .ok content) : t.contentAt? (Path.location path) = some content :=
  contentAt?_eq_some_iff.mpr (read_eq_ok_iff.mp h).2

/-! ### Files that keep their contents -/

/-- A change of a tree after which the files that do not stand at some places hold what they held.
Directories may have been created, but none has been removed. -/
structure KeepsContents (t : FileTree) (places : List Location) (t' : FileTree) : Prop where
  contentAt?_eq : ∀ loc ∉ places, t'.contentAt? loc = t.contentAt? loc
  directories : t'.HasDirectoriesOf t

namespace KeepsContents

variable {places more : List Location} {t t' t'' : FileTree}

/-- A tree keeps its own contents. -/
theorem refl (t : FileTree) (places : List Location) : t.KeepsContents places t :=
  ⟨fun _ _ => rfl, .refl t⟩

/-- Contents that are kept twice are kept. -/
theorem trans (h : t.KeepsContents places t') (h' : t'.KeepsContents places t'') :
    t.KeepsContents places t'' :=
  ⟨fun loc hloc => (h'.contentAt?_eq loc hloc).trans (h.contentAt?_eq loc hloc),
    h.directories.trans h'.directories⟩

/-- Contents that are kept outside some places are kept outside more. -/
theorem mono (h : t.KeepsContents places t') (hsub : places ⊆ more) : t.KeepsContents more t' :=
  ⟨fun loc hloc => h.contentAt?_eq loc fun hmem => hloc (hsub hmem), h.directories⟩

/-- A file that stands elsewhere reads as before. -/
theorem read (h : t.KeepsContents places t') {path : List Char} {content : ByteArray}
    (hpath : Path.location path ∉ places) (hread : t.read path = .ok content) :
    t'.read path = .ok content := by
  refine read_eq_ok_iff.mpr ⟨locate_of_directories h.directories (read_eq_ok_iff.mp hread).1, ?_⟩
  rw [← contentAt?_eq_some_iff, h.contentAt?_eq _ hpath]
  exact contentAt?_of_read hread

end KeepsContents

/-- A change in some places keeps the contents of all others. -/
theorem ChangesOnly.keepsContents {places : List Location} {t t' : FileTree}
    (h : t.ChangesOnly places t') : t.KeepsContents places t' := by
  refine ⟨fun loc hloc => ?_, h.directories⟩
  rw [contentAt?, contentAt?, h.get?_eq loc hloc]

/-- A directory is created where nothing stood. -/
theorem keepsContents_set_directory {t : FileTree} {loc : Location} (hne : loc ≠ [])
    (h : t.get? loc = none) : t.KeepsContents [] (t.set loc .directory) := by
  have hother : ∀ l, l ≠ loc → (t.set loc .directory).get? l = t.get? l := fun l hl => by
    by_cases hnil : l = []
    · simp [hnil, get?]
    · rw [get?_set hnil, if_neg hl]
  refine ⟨fun l _ => ?_, fun l hl => ?_⟩
  · by_cases hloc : l = loc
    · subst hloc
      rw [contentAt?_eq_none h, contentAt?, get?_set_self hne]
    · rw [contentAt?, contentAt?, hother l hloc]
  · by_cases hloc : l = loc
    · subst hloc
      rw [get?_set_self hne]
    · rw [hother l hloc, hl]

/-- Creating directories touches no file. -/
theorem keepsContents_createDirectoriesFrom {t t' : FileTree} {loc : Location}
    {parts : List (List Char)} (h : t.createDirectoriesFrom loc parts = .ok t') :
    t.KeepsContents [] t' := by
  induction parts generalizing t loc with
  | nil =>
    obtain rfl := Except.ok.inj h
    exact .refl t []
  | cons part rest ih =>
    rw [createDirectoriesFrom] at h
    split at h
    · exact ih h
    · split at h
      · exact ih h
      · dsimp only at h
        split at h
        · simp at h
        · split at h
          · exact ih h
          · simp at h
          · rename_i hnone
            exact (keepsContents_set_directory (by simp) hnone).trans (ih h)

/-- Creating the directories of a path touches no file. -/
theorem keepsContents_createDirectories {t t' : FileTree} {path : List Char}
    (h : t.createDirectories path = .ok t') : t.KeepsContents [] t' := by
  unfold createDirectories at h
  split at h
  · simp at h
  · exact keepsContents_createDirectoriesFrom h

/-! ### Writing in pieces -/

/-- A content with a piece put in at an offset. What stands behind the piece stays, and a gap before
it is filled with zeros. -/
def patch (content : ByteArray) (offset : Nat) (piece : ByteArray) : ByteArray :=
  content.extract 0 offset ++ ⟨Array.replicate (offset - content.size) 0⟩ ++ piece ++
    content.extract (offset + piece.size) content.size

/-- Writes a piece into the file at a location, from an offset on. -/
def writeAt (t : FileTree) (loc : Location) (offset : Nat) (piece : ByteArray) : FileTree :=
  match t.get? loc with
  | some (.file content) => t.set loc (.file (patch content offset piece))
  | _ => t

/-- A piece changes the file that it is written into, and no other. -/
theorem changesOnly_writeAt (t : FileTree) (loc : Location) (offset : Nat) (piece : ByteArray) :
    t.ChangesOnly [loc] (t.writeAt loc offset piece) := by
  unfold writeAt
  split
  · rename_i hfile
    exact changesOnly_set _ (by simp [hfile])
  · exact .refl t [loc]

/-- A piece is written into a file that is there, so that the tree stays well named. -/
theorem WellNamed.writeAt {t : FileTree} (h : t.WellNamed) (loc : Location) (offset : Nat)
    (piece : ByteArray) : (t.writeAt loc offset piece).WellNamed := by
  unfold FileTree.writeAt
  split
  · rename_i hfile
    exact h.set (h.of_get? hfile) _
  · exact h

/-- A piece that comes next. -/
theorem patch_extract {content : ByteArray} {offset count : Nat}
    (h : offset + count ≤ content.size) :
    patch (content.extract 0 offset) offset (content.extract offset (offset + count)) =
      content.extract 0 (offset + count) := by
  have hsize : (content.extract 0 offset).size = offset := by
    rw [ByteArray.size_extract]
    omega
  have hpiece : (content.extract offset (offset + count)).size = count := by
    rw [ByteArray.size_extract]
    omega
  have hbefore : (content.extract 0 offset).extract 0 offset = content.extract 0 offset := by
    rw [ByteArray.extract_extract]
    simp
  have hgap : (⟨Array.replicate (offset - offset) 0⟩ : ByteArray) = ByteArray.empty := by
    rw [Nat.sub_self]
    rfl
  have hafter : (content.extract 0 offset).extract (offset + count) offset = ByteArray.empty := by
    rw [ByteArray.extract_eq_empty_iff]
    omega
  rw [patch, hsize, hpiece, hbefore, hgap, hafter, ByteArray.append_empty, ByteArray.append_empty,
    ByteArray.extract_append_extract, Nat.zero_min, Nat.max_eq_right (Nat.le_add_right _ _)]

/-- A file that is written in pieces from its start holds what has been written so far. -/
theorem contentAt?_writeAt {t : FileTree} {loc : Location} {content : ByteArray}
    {offset count : Nat} (hfile : t.contentAt? loc = some (content.extract 0 offset))
    (h : offset + count ≤ content.size) :
    (t.writeAt loc offset (content.extract offset (offset + count))).contentAt? loc =
      some (content.extract 0 (offset + count)) := by
  have hnode := contentAt?_eq_some_iff.mp hfile
  rw [contentAt?_eq_some_iff, writeAt, hnode]
  dsimp only
  rw [get?_set_self (ne_nil_of_get?_file hnode), patch_extract h]

/-- A content that goes into an empty file as a whole. -/
theorem writeAt_of_empty {t : FileTree} {loc : Location}
    (h : t.contentAt? loc = some ByteArray.empty) (content : ByteArray) :
    t.writeAt loc 0 (content.extract 0 (0 + content.size)) = t.set loc (.file content) := by
  have hnone : content.extract 0 0 = ByteArray.empty := ByteArray.extract_same
  have hall : patch (content.extract 0 0) 0 (content.extract 0 (0 + content.size)) = content := by
    rw [patch_extract (by omega), Nat.zero_add, ByteArray.extract_zero_size]
  rw [writeAt, contentAt?_eq_some_iff.mp h]
  dsimp only
  rw [← hnone, hall]

/-- Of two entries that are set for a place the last one stays. -/
theorem setEntry_setEntry (loc : Location) (node node' : Node)
    (entries : List (Location × Node)) :
    setEntry loc node' (setEntry loc node entries) = setEntry loc node' entries := by
  induction entries with
  | nil => simp [setEntry]
  | cons e rest ih =>
    obtain ⟨l, n⟩ := e
    by_cases hl : l = loc
    · simp [setEntry, hl]
    · simp [setEntry, hl, ih]

/-- The node that is put last stands. -/
theorem set_set (t : FileTree) (loc : Location) (node node' : Node) :
    (t.set loc node).set loc node' = t.set loc node' := by
  simp only [set, setEntry_setEntry]

end FileTree

end TrackedComments

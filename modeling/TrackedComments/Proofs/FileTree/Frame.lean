import TrackedComments.FileTree.Text
import TrackedComments.Proofs.FileTree.Walk

/-!
# What file operations leave alone

Every operation on files works at a few locations. What stands elsewhere stays, and no directory
goes away, so that all other paths lead where they led and read as they read.

## Main results

* `FileTree.ChangesOnly`: the frame of an operation, which composes (`ChangesOnly.trans`).
* `FileTree.ChangesOnly.read`: a file that stands elsewhere reads as before.
* `FileTree.write_eq_ok`, `FileTree.rename_eq_ok`: what writing and moving a file do, with their
  frames `changesOnly_write` and `changesOnly_rename`.
* `FileTree.createDirectories_of_enters`: where there is a directory already, nothing is created.
-/

namespace TrackedComments

/-- Bytes decode to a text just when they are its encoding. -/
theorem fromUTF8?_eq_some_iff {content : ByteArray} {text : String} :
    String.fromUTF8? content = some text ↔ content = text.toUTF8 := by
  constructor
  · intro h
    unfold String.fromUTF8? at h
    split at h
    · obtain rfl := Option.some.inj h
      rfl
    · simp at h
  · rintro rfl
    exact fromUTF8?_toUTF8 text

namespace FileTree

/-! ### Frames -/

/-- A change of a tree that touches nothing but what stands at some places, where it neither removes
a directory nor creates one. -/
structure ChangesOnly (t : FileTree) (places : List Location) (t' : FileTree) : Prop where
  get?_eq : ∀ loc ∉ places, t'.get? loc = t.get? loc
  directory_iff : ∀ loc, t'.get? loc = some .directory ↔ t.get? loc = some .directory

namespace ChangesOnly

variable {places more : List Location} {t t' t'' : FileTree}

/-- A tree that has not changed differs from itself nowhere. -/
theorem refl (t : FileTree) (places : List Location) : t.ChangesOnly places t :=
  ⟨fun _ _ => rfl, fun _ => Iff.rfl⟩

/-- A difference of two trees does not depend on which of them comes first. -/
theorem symm (h : t.ChangesOnly places t') : t'.ChangesOnly places t :=
  ⟨fun loc hloc => (h.get?_eq loc hloc).symm, fun loc => (h.directory_iff loc).symm⟩

/-- Two changes one after the other, both in the same places. -/
theorem trans (h : t.ChangesOnly places t') (h' : t'.ChangesOnly places t'') :
    t.ChangesOnly places t'' :=
  ⟨fun loc hloc => (h'.get?_eq loc hloc).trans (h.get?_eq loc hloc),
    fun loc => (h'.directory_iff loc).trans (h.directory_iff loc)⟩

/-- A change in some places is one in more places. -/
theorem mono (h : t.ChangesOnly places t') (hsub : places ⊆ more) : t.ChangesOnly more t' :=
  ⟨fun loc hloc => h.get?_eq loc fun hmem => hloc (hsub hmem), h.directory_iff⟩

/-- A change leaves all directories where they were. -/
theorem directories (h : t.ChangesOnly places t') : t'.HasDirectoriesOf t :=
  fun loc => (h.directory_iff loc).mpr

end ChangesOnly

/-- A file does not stand at the root of the tree. -/
theorem ne_nil_of_get?_file {t : FileTree} {loc : Location} {content : ByteArray}
    (h : t.get? loc = some (.file content)) : loc ≠ [] := by
  rintro rfl
  simp [get?] at h

/-- At the root of the tree there is a directory. -/
theorem ne_nil_of_get?_ne_directory {t : FileTree} {loc : Location}
    (h : t.get? loc ≠ some .directory) : loc ≠ [] := by
  rintro rfl
  simp [get?] at h

/-- What has been set in a place stands there. -/
theorem get?_set_self {t : FileTree} {loc : Location} {node : Node} (hloc : loc ≠ []) :
    (t.set loc node).get? loc = some node := by
  rw [get?_set hloc, if_pos rfl]

/-- A change at a place where no directory stands, neither before nor after. -/
theorem changesOnly_of_keeps {t t' : FileTree} {loc : Location}
    (hkeep : ∀ l, l ≠ loc → t'.get? l = t.get? l) (h : t.get? loc ≠ some .directory)
    (h' : t'.get? loc ≠ some .directory) : t.ChangesOnly [loc] t' := by
  refine ⟨fun l hl => hkeep l (by simpa using hl), fun l => ?_⟩
  by_cases hl : l = loc
  · subst hl
    exact iff_of_false h' h
  · rw [hkeep l hl]

/-- A file may be put where no directory stands. -/
theorem changesOnly_set {t : FileTree} {loc : Location} (content : ByteArray)
    (h : t.get? loc ≠ some .directory) : t.ChangesOnly [loc] (t.set loc (.file content)) := by
  refine changesOnly_of_keeps (fun l hl => ?_) h ?_
  · by_cases hnil : l = []
    · simp [hnil, get?]
    · rw [get?_set hnil, if_neg hl]
  · rw [get?_set_self (ne_nil_of_get?_ne_directory h)]
    simp

/-- What is no directory may be removed. -/
theorem changesOnly_erase {t : FileTree} {loc : Location} (h : t.get? loc ≠ some .directory) :
    t.ChangesOnly [loc] (t.erase loc) := by
  refine changesOnly_of_keeps (fun l hl => ?_) h ?_
  · by_cases hnil : l = []
    · simp [hnil, get?]
    · rw [get?_erase hnil, if_neg hl]
  · rw [get?_erase (ne_nil_of_get?_ne_directory h), if_pos rfl]
    simp

/-! ### Reading -/

/-- A path is read as what stands in the place that it leads to. -/
theorem read_eq_ok_iff {t : FileTree} {path : List Char} {content : ByteArray} :
    t.read path = .ok content ↔
      t.locate path = .ok (Path.location path) ∧
        t.get? (Path.location path) = some (.file content) := by
  unfold read
  constructor
  · intro h
    split at h
    · simp at h
    · simp at h
    · rename_i loc content' hfind
      obtain rfl := Except.ok.inj h
      obtain ⟨hlocate, hnode⟩ := find_eq_ok_iff.mp hfind
      obtain rfl := locate_eq hlocate
      exact ⟨hlocate, hnode⟩
  · rintro ⟨hlocate, hnode⟩
    simp only [find_eq_ok_iff.mpr ⟨hlocate, hnode⟩]

/-- A path is read as a text if its bytes are the encoding of that text. -/
theorem readText_eq_ok_iff {t : FileTree} {path : List Char} {text : String} :
    t.readText path = .ok text ↔ t.read path = .ok text.toUTF8 := by
  constructor
  · intro h
    unfold readText at h
    split at h
    · simp at h
    · rename_i content hread
      split at h
      · simp at h
      · rename_i htext
        obtain rfl := Except.ok.inj h
        rw [hread, fromUTF8?_eq_some_iff.mp htext]
  · intro h
    simp only [readText, h, fromUTF8?_toUTF8]

/-- A file that stands elsewhere reads as before. -/
theorem ChangesOnly.read {places : List Location} {t t' : FileTree}
    (h : t.ChangesOnly places t') {path : List Char} {content : ByteArray}
    (hpath : Path.location path ∉ places) (hread : t.read path = .ok content) :
    t'.read path = .ok content := by
  obtain ⟨hlocate, hnode⟩ := read_eq_ok_iff.mp hread
  exact read_eq_ok_iff.mpr
    ⟨locate_of_directories h.directories hlocate, (h.get?_eq _ hpath).trans hnode⟩

/-- A text outside the changed places is read as before. -/
theorem ChangesOnly.readText {places : List Location} {t t' : FileTree}
    (h : t.ChangesOnly places t') {path : List Char} {text : String}
    (hpath : Path.location path ∉ places) (hread : t.readText path = .ok text) :
    t'.readText path = .ok text :=
  readText_eq_ok_iff.mpr (h.read hpath (readText_eq_ok_iff.mp hread))

/-- A path exists if it leads to a place in which something stands. -/
theorem pathExists_iff {t : FileTree} {path : List Char} :
    t.pathExists path ↔ t.locate path = .ok (Path.location path) ∧
      ∃ node, t.get? (Path.location path) = some node := by
  unfold pathExists
  constructor
  · intro h
    cases hfind : t.find path with
    | error e => simp [hfind, Except.toBool] at h
    | ok found =>
      obtain ⟨hlocate, hnode⟩ := find_eq_ok_iff.mp hfind
      have hloc := locate_eq hlocate
      exact ⟨hloc ▸ hlocate, found.2, hloc ▸ hnode⟩
  · rintro ⟨hlocate, node, hnode⟩
    rw [find_eq_ok_iff.mpr ⟨hlocate, hnode⟩]
    rfl

/-- A path that leads to something that stands elsewhere still does. -/
theorem ChangesOnly.pathExists {places : List Location} {t t' : FileTree}
    (h : t.ChangesOnly places t') {path : List Char} (hpath : Path.location path ∉ places)
    (hexists : t.pathExists path) : t'.pathExists path := by
  obtain ⟨hlocate, node, hnode⟩ := pathExists_iff.mp hexists
  exact pathExists_iff.mpr ⟨locate_of_directories h.directories hlocate, node,
    (h.get?_eq _ hpath).trans hnode⟩

/-- The path of a file ends in a name: every other part leads to a directory. -/
theorem exists_eq_append_name {t : FileTree} {path : List Char} {content : ByteArray}
    (h : t.read path = .ok content) :
    ∃ before last : List Char, path = before ++ last ∧
      (before = [] ∨ ∃ more, before = more ++ ['/']) ∧ IsName last := by
  obtain ⟨hlocate, hnode⟩ := read_eq_ok_iff.mp h
  have hfile : t.get? (Path.location path) ≠ some .directory := by simp [hnode]
  obtain ⟨before, last, rfl, hbefore, hlast⟩ := Path.exists_eq_append_last path
  obtain ⟨parts, hparts⟩ := Path.exists_splitAtChar_append hbefore
  obtain ⟨-, -, hwalk⟩ := locate_eq_ok_iff.mp hlocate
  rw [hparts last hlast] at hwalk
  obtain ⟨hparent, hdir⟩ := walkFrom_append hwalk
  have hlocation := walkFrom_eq hwalk
  rw [Path.destination_append] at hlocation
  refine ⟨before, last, rfl, hbefore, ?_, ?_, ?_, hlast⟩
  · rintro rfl
    exact hfile (hlocation ▸ hdir)
  · rintro rfl
    exact hfile (hlocation ▸ hdir)
  · rintro rfl
    exact hfile (hlocation ▸ get?_dropLast_of_walkFrom hparent)

/-! ### Writing and moving -/

/-- Writing puts the content at the location of the path, where no directory stands. -/
theorem write_eq_ok {t t' : FileTree} {path : List Char} {content : ByteArray}
    (h : t.write path content = .ok t') :
    t.locate path = .ok (Path.location path) ∧ t.get? (Path.location path) ≠ some .directory ∧
      t' = t.set (Path.location path) (.file content) := by
  unfold write at h
  split at h
  · simp at h
  · rename_i loc hlocate
    obtain rfl := locate_eq hlocate
    split at h
    · simp at h
    · rename_i hdir
      exact ⟨hlocate, hdir, (Except.ok.inj h).symm⟩

/-- A file can be written wherever a path leads, unless a directory stands there. -/
theorem write_of_locate {t : FileTree} {path : List Char} {content : ByteArray} {loc : Location}
    (hlocate : t.locate path = .ok loc) (hdir : t.get? loc ≠ some .directory) :
    t.write path content = .ok (t.set loc (.file content)) := by
  unfold write
  rw [hlocate]
  dsimp only
  split
  · exact absurd ‹_› hdir
  · rfl

/-- A write changes the place of its path alone. -/
theorem changesOnly_write {t t' : FileTree} {path : List Char} {content : ByteArray}
    (h : t.write path content = .ok t') : t.ChangesOnly [Path.location path] t' := by
  obtain ⟨-, hdir, rfl⟩ := write_eq_ok h
  exact changesOnly_set _ hdir

/-- What has been written is read. -/
theorem read_of_write {t t' : FileTree} {path : List Char} {content : ByteArray}
    (h : t.write path content = .ok t') : t'.read path = .ok content := by
  have hframe := changesOnly_write h
  obtain ⟨hlocate, hdir, rfl⟩ := write_eq_ok h
  exact read_eq_ok_iff.mpr ⟨locate_of_directories hframe.directories hlocate,
    get?_set_self (ne_nil_of_get?_ne_directory hdir)⟩

/-- Moving a file takes it away from where it stood and puts its content at the target, where no
directory stands. -/
theorem rename_eq_ok {t t' : FileTree} {source target : List Char}
    (h : t.rename source target = .ok t') :
    ∃ content, t.read source = .ok content ∧ t.locate target = .ok (Path.location target) ∧
      t.get? (Path.location target) ≠ some .directory ∧
      t' = (t.erase (Path.location source)).set (Path.location target) (.file content) := by
  unfold rename at h
  split at h
  · rename_i content old new hread hold hnew
    obtain rfl := locate_eq hold
    obtain rfl := locate_eq hnew
    split at h
    · simp at h
    · rename_i hdir
      exact ⟨content, hread, hnew, hdir, (Except.ok.inj h).symm⟩
  · simp at h
  · simp at h
  · simp at h

/-- A file can be moved to wherever no directory stands. -/
theorem rename_of_read {t : FileTree} {source target : List Char} {content : ByteArray}
    (hread : t.read source = .ok content) (htarget : t.locate target = .ok (Path.location target))
    (hdir : t.get? (Path.location target) ≠ some .directory) :
    t.rename source target =
      .ok ((t.erase (Path.location source)).set (Path.location target) (.file content)) := by
  have hsource := (read_eq_ok_iff.mp hread).1
  simp only [rename, hread, hsource, htarget]

/-- A rename changes the places of its two paths alone. -/
theorem changesOnly_rename {t t' : FileTree} {source target : List Char}
    (h : t.rename source target = .ok t') :
    t.ChangesOnly [Path.location source, Path.location target] t' := by
  obtain ⟨content, hread, -, hdir, rfl⟩ := rename_eq_ok h
  have hsource : t.get? (Path.location source) ≠ some .directory := by
    simp [(read_eq_ok_iff.mp hread).2]
  have herase := changesOnly_erase hsource
  have hset : (t.erase (Path.location source)).get? (Path.location target) ≠ some .directory := by
    rw [get?_erase (ne_nil_of_get?_ne_directory hdir)]
    split
    · simp
    · exact hdir
  exact (herase.mono (by simp)).trans ((changesOnly_set _ hset).mono (by simp))

/-- A file that has been moved is read at its target. -/
theorem read_of_rename {t t' : FileTree} {source target : List Char} {content : ByteArray}
    (hread : t.read source = .ok content) (h : t.rename source target = .ok t') :
    t'.read target = .ok content := by
  have hframe := changesOnly_rename h
  obtain ⟨content', hread', htarget, hdir, rfl⟩ := rename_eq_ok h
  obtain rfl : content' = content := Except.ok.inj (hread'.symm.trans hread)
  exact read_eq_ok_iff.mpr ⟨locate_of_directories hframe.directories htarget,
    get?_set_self (ne_nil_of_get?_ne_directory hdir)⟩

/-- Where a path leads to a directory already, nothing is created. -/
theorem createDirectories_of_enters {t : FileTree} {path : List Char} (h : t.Enters path) :
    t.createDirectories path = .ok t := by
  have hstep : ∀ parts loc, t.walkFrom loc parts = .ok (Path.location path) →
      t.createDirectoriesFrom loc parts = .ok t := by
    intro parts loc hwalk
    fun_induction walkFrom t loc parts with
    | case1 => rfl
    | case2 => simp at hwalk
    | case3 => simp at hwalk
    | case4 loc part rest hdir hsays ih =>
      rw [createDirectoriesFrom, if_pos hsays]
      exact ih hwalk
    | case5 loc rest hdir hsays ih =>
      rw [createDirectoriesFrom, if_neg hsays, if_pos rfl]
      exact ih hwalk
    | case6 => simp at hwalk
    | case7 loc part rest hdir hsays hparent name hlength ih =>
      have hnext : t.get? (loc ++ [name]) = some .directory := get?_of_walkFrom hwalk h.directory
      rw [createDirectoriesFrom, if_neg hsays, if_neg hparent]
      simp only [name] at hlength hnext
      simp only [if_neg hlength, hnext]
      exact ih hwalk
  unfold createDirectories
  rw [if_neg (by simpa using h.not_mem_nul)]
  exact hstep _ _ h.walk

/-! ### Names -/

/-- A tree in which files and directories have names that a file system can store. -/
def WellNamed (t : FileTree) : Prop :=
  ∀ loc ∈ t.entries.map Prod.fst, AreNames loc

/-- A tree stays well named if a place with proper names is set. -/
theorem WellNamed.set {t : FileTree} (h : t.WellNamed) {loc : Location} (hloc : AreNames loc)
    (node : Node) : (t.set loc node).WellNamed := by
  intro l hl
  rcases mem_fst_setEntry.mp hl with rfl | hl
  · exact hloc
  · exact h l hl

/-- A tree stays well named if something is taken out of it. -/
theorem WellNamed.erase {t : FileTree} (h : t.WellNamed) (loc : Location) :
    (t.erase loc).WellNamed :=
  fun l hl => h l (List.Sublist.subset (List.filter_sublist.map _) hl)

/-- A write leaves a tree well named. -/
theorem WellNamed.write {t t' : FileTree} (h : t.WellNamed) {path : List Char}
    {content : ByteArray} (hwrite : t.write path content = .ok t') : t'.WellNamed := by
  obtain ⟨-, -, rfl⟩ := write_eq_ok hwrite
  exact h.set (Path.areNames_location path) _

/-- A rename leaves a tree well named. -/
theorem WellNamed.rename {t t' : FileTree} (h : t.WellNamed) {source target : List Char}
    (hrename : t.rename source target = .ok t') : t'.WellNamed := by
  obtain ⟨content, -, -, -, rfl⟩ := rename_eq_ok hrename
  exact (h.erase _).set (Path.areNames_location target) _

/-- The directories that are created on a way leave a tree well named. -/
theorem WellNamed.createDirectoriesFrom {t t' : FileTree} {loc : Location}
    {parts : List (List Char)} (h : t.WellNamed) (hloc : AreNames loc)
    (hparts : ∀ part ∈ parts, '/' ∉ part)
    (hcreate : t.createDirectoriesFrom loc parts = .ok t') : t'.WellNamed := by
  induction parts generalizing t loc with
  | nil => exact Except.ok.inj hcreate ▸ h
  | cons part rest ih =>
    obtain ⟨hslash, hrest⟩ := List.forall_mem_cons.mp hparts
    rw [FileTree.createDirectoriesFrom] at hcreate
    split at hcreate
    · exact ih h hloc hrest hcreate
    · rename_i hsays
      split at hcreate
      · exact ih h (fun name hname => hloc name (List.dropLast_subset _ hname)) hrest hcreate
      · rename_i hparent
        have hname : IsName part := ⟨fun hnil => hsays (.inl hnil), fun hdot => hsays (.inr hdot),
          hparent, hslash⟩
        have hnext : AreNames (loc ++ [String.ofList part]) := by
          rw [areNames_append, areNames_singleton, String.toList_ofList]
          exact ⟨hloc, hname⟩
        dsimp only at hcreate
        split at hcreate
        · simp at hcreate
        · split at hcreate
          · exact ih h hnext hrest hcreate
          · simp at hcreate
          · exact ih (h.set hnext .directory) hnext hrest hcreate

/-- The directories that are created for a path leave a tree well named. -/
theorem WellNamed.createDirectories {t t' : FileTree} {path : List Char} (h : t.WellNamed)
    (hcreate : t.createDirectories path = .ok t') : t'.WellNamed := by
  unfold FileTree.createDirectories at hcreate
  split at hcreate
  · simp at hcreate
  · exact h.createDirectoriesFrom areNames_nil (fun _ => Chars.not_mem_of_mem_splitAtChar) hcreate

/-! ### Entries -/

/-- What is found for a place is listed for it. -/
theorem mem_of_lookup_eq_some {β : Type} {entries : List (Location × β)} {loc : Location} {b : β}
    (h : entries.lookup loc = some b) : (loc, b) ∈ entries := by
  obtain ⟨before, after, rfl, -⟩ := List.lookup_eq_some_iff.mp h
  simp

/-- What is listed for a place is found for it, if no place is listed twice. -/
theorem lookup_eq_some_of_mem {entries : List (Location × Node)} {loc : Location} {node : Node}
    (hnodup : (entries.map Prod.fst).Nodup) (h : (loc, node) ∈ entries) :
    entries.lookup loc = some node := by
  induction entries with
  | nil => simp at h
  | cons e rest ih =>
    obtain ⟨l, n⟩ := e
    rw [List.map_cons, List.nodup_cons] at hnodup
    rcases List.mem_cons.mp h with heq | hrest
    · obtain ⟨rfl, rfl⟩ := Prod.mk.inj heq
      simp
    · have hne : loc ≠ l := by
        rintro rfl
        exact hnodup.1 (List.mem_map.mpr ⟨_, hrest, rfl⟩)
      rw [List.lookup_cons, beq_false_of_ne hne]
      exact ih hnodup.2 hrest

/-- What is listed at a location stands there, and the other way round. -/
theorem mem_entries_iff {t : FileTree} {loc : Location} {node : Node} (hloc : loc ≠ []) :
    (loc, node) ∈ t.entries ↔ t.get? loc = some node := by
  rw [get?, if_neg hloc]
  exact ⟨lookup_eq_some_of_mem t.nodup, mem_of_lookup_eq_some⟩

/-- In a well named tree things stand in places with proper names only. -/
theorem WellNamed.of_get? {t : FileTree} (h : t.WellNamed) {loc : Location} {node : Node}
    (hnode : t.get? loc = some node) : AreNames loc := by
  by_cases hloc : loc = []
  · exact hloc ▸ areNames_nil
  · exact h loc (List.mem_map.mpr ⟨_, (mem_entries_iff hloc).mpr hnode, rfl⟩)

end FileTree

end TrackedComments

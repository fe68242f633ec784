import TrackedComments.Proofs.FileTree.Components
import TrackedComments.Proofs.FileTree.Texts
import TrackedComments.Proofs.Source.Enumeration
import TrackedComments.Proofs.WriteBack.Insertion

/-!
# Identities of files

A source knows a file by the path that leads to it below the root. The listing comes to the file by
a path of its own, which is the root and then one name after the other, and takes the identity from
that. Whatever is done by the identity later, be it reading or writing back, reaches the file that
was listed.

## Main results

* `FileTree.locate_join_of_relativeTo?`: the identity of a path leads to where the path leads.
* `FileTree.reaches_of_find`: what is read and written by an identity that leads to a file.
* `FileTree.relativeTo?_join_inverse`: identities and paths below a root are inverse to each other.
-/

namespace TrackedComments

namespace FileTree

open TrackedComments.Path (relativeTo? join components location names)

variable {t t' : FileTree} {root path id : List Char} {loc loc' : Location}
  {parts : List (List Char)}

/-! ### Walks along steps -/

/-- A walk goes on from directories only. -/
theorem get?_of_walkFrom_cons {part : List Char} (h : t.walkFrom loc (part :: parts) = .ok loc') :
    t.get? loc = some .directory := by
  unfold walkFrom at h
  split at h
  · simp at h
  · simp at h
  · assumption

/-- What says nothing can be left out of a walk. -/
theorem walkFrom_stepsOf (h : t.walkFrom loc parts = .ok loc') :
    t.walkFrom loc (Path.stepsOf parts) = .ok loc' := by
  fun_induction walkFrom t loc parts with
  | case1 => exact h
  | case2 => simp at h
  | case3 => simp at h
  | case4 loc part rest hdir hmute ih =>
    rw [Path.stepsOf_cons_of_neg hmute]
    exact ih h
  | case5 loc rest hdir hmute ih =>
    rw [Path.stepsOf_cons_of_pos hmute, walkFrom, hdir]
    simpa only [if_neg hmute, if_true] using ih h
  | case6 => simp at h
  | case7 loc part rest hdir hmute hparent name hlength ih =>
    rw [Path.stepsOf_cons_of_pos hmute, walkFrom, hdir]
    simpa only [if_neg hmute, if_neg hparent, name, if_neg hlength] using ih h

/-- A walk without steps stays where it is. -/
theorem eq_of_walkFrom_stepsOf (hnil : Path.stepsOf parts = [])
    (h : t.walkFrom loc (Path.stepsOf parts) = .ok loc') : loc = loc' := by
  rw [hnil] at h
  exact Except.ok.inj h

/-- A walk goes on from a directory, or ends there if nothing follows but what says nothing. -/
theorem directory_of_walkFrom_stepsOf {part : List Char} (hmute : part = [] ∨ part = ['.'])
    (h : t.walkFrom loc (Path.stepsOf parts) = .ok loc')
    (hlast : ∀ last ∈ (part :: parts).getLast?, last = [] ∨ last = ['.'] →
      t.get? loc' = some .directory) : t.get? loc = some .directory := by
  by_cases hsteps : Path.stepsOf parts = []
  · obtain rfl := eq_of_walkFrom_stepsOf hsteps h
    obtain ⟨last, hmem⟩ : ∃ last, (part :: parts).getLast? = some last :=
      ⟨_, List.getLast?_eq_some_getLast (List.cons_ne_nil part parts)⟩
    refine hlast last hmem ?_
    rcases List.mem_cons.mp (List.mem_of_getLast? hmem) with heq | hmem
    · rwa [heq]
    · by_contra hstep
      exact List.filter_eq_nil_iff.mp hsteps last hmem (by simpa using hstep)
  · obtain ⟨step, more, hsteps⟩ := List.exists_cons_of_ne_nil hsteps
    rw [hsteps] at h
    exact get?_of_walkFrom_cons h

/-- What says nothing can be put into a walk, but at its end only if it leads to a directory. -/
theorem walkFrom_of_stepsOf (h : t.walkFrom loc (Path.stepsOf parts) = .ok loc')
    (hlast : ∀ part ∈ parts.getLast?, part = [] ∨ part = ['.'] → t.get? loc' = some .directory) :
    t.walkFrom loc parts = .ok loc' := by
  induction parts generalizing loc with
  | nil => exact h
  | cons part rest ih =>
    have hrest : ∀ last ∈ rest.getLast?, last = [] ∨ last = ['.'] →
        t.get? loc' = some .directory := by
      intro last hmem
      refine hlast last ?_
      rw [List.getLast?_cons, Option.mem_def.mp hmem]
      rfl
    by_cases hmute : part = [] ∨ part = ['.']
    · rw [Path.stepsOf_cons_of_neg hmute] at h
      rw [walkFrom, directory_of_walkFrom_stepsOf hmute h hlast]
      simpa only [if_pos hmute] using ih h hrest
    · rw [Path.stepsOf_cons_of_pos hmute] at h
      have hdir := get?_of_walkFrom_cons h
      rw [walkFrom, hdir] at h ⊢
      simp only [if_neg hmute] at h ⊢
      split at h
      · rw [if_pos ‹_›]
        exact ih h hrest
      · rw [if_neg ‹_›]
        split at h
        · simp at h
        · rw [if_neg ‹_›]
          exact ih h hrest

/-! ### Paths with an identity -/

/-- The identity of a path leads to where the path leads. -/
theorem locate_join_of_relativeTo? (h : relativeTo? root path = some id)
    (hlocate : t.locate path = .ok loc) : t.locate (join root id) = .ok loc := by
  obtain ⟨hne, hnul, hwalk⟩ := locate_eq_ok_iff.mp hlocate
  have hcomponents := Path.components_join_of_relativeTo? h
  have hnames := Path.names_eq_of_components_eq hcomponents
  have hwalk' : t.walkFrom [] (names (join root id)) = .ok loc := hnames ▸ walkFrom_stepsOf hwalk
  refine locate_eq_ok_iff.mpr ⟨?_, ?_, walkFrom_of_stepsOf hwalk' fun part hlast hmute => ?_⟩
  · intro hnil
    rw [hnil] at hcomponents
    exact Path.components_ne_nil hne hcomponents.symm
  · rw [Path.mem_iff_exists_mem_names (by decide) (by decide), hnames,
      ← Path.mem_iff_exists_mem_names (by decide) (by decide)]
    exact hnul
  · by_cases hsteps : names path = []
    · rw [← hnames] at hsteps
      obtain rfl : [] = loc := eq_of_walkFrom_stepsOf hsteps hwalk'
      rfl
    · obtain ⟨parts, steps, hsplit, hne, hall⟩ :=
        Path.exists_splitAtChar_join_of_relativeTo? h hsteps
      rw [hsplit, List.getLast?_append_of_ne_nil _ hne] at hlast
      have hstep := hall part (List.mem_of_getLast? hlast)
      exact hmute.elim (absurd · hstep.ne_nil) (absurd · hstep.ne_current)

/-! ### Reading and writing back -/

/-- Whether what is done by an identity below a root reaches a file. -/
structure Reaches (t : FileTree) (root id : String) (place : Location) (content : ByteArray) :
    Prop where
  find : t.find (join root.toList id.toList) = .ok (place, .file content)
  /-- The text of the file is read, if it is one. -/
  readSource : ∀ text, t.readSource root id = .ok text ↔ content = text.toUTF8 ∧ IsText text
  /-- A marker is inserted into the content of the file, and nothing else is touched but the
  temporary file beside it. -/
  insert : ∀ line number expected t' result,
    WriteBack.insert t root id line number expected = (t', result) →
    t.ChangesOnly [place, WriteBack.temporaryNames place] t' ∧
    ∀ text, result = .ok (.inserted text) → ∃ (old : String) (updated : List Char),
      content = old.toUTF8 ∧
      WriteBack.insertInto old.toList line number (expected.map String.toList) =
        .ok (some updated, .inserted text) ∧
      t'.get? place = some (.file (String.ofList updated).toUTF8)

/-- What is done by an identity that leads to a file reaches the file. -/
theorem reaches_of_find {root id : String} {place : Location} {content : ByteArray}
    (h : t.find (join root.toList id.toList) = .ok (place, .file content)) :
    t.Reaches root id place content := by
  obtain ⟨hlocate, hnode⟩ := find_eq_ok_iff.mp h
  obtain rfl := locate_eq hlocate
  have hread : t.read (join root.toList id.toList) = .ok content :=
    read_eq_ok_iff.mpr ⟨hlocate, hnode⟩
  refine ⟨h, fun text => ?_, fun line number expected t' result hinsert =>
    ⟨WriteBack.changesOnly_of_attempt (.done hinsert), ?_⟩⟩
  · rw [readSource_eq_ok_iff, readText_eq_ok_iff, hread, Except.ok.injEq]
  rintro text rfl
  rcases WriteBack.insert_cases hinsert with ⟨-, hnot⟩ | ⟨old, updated, text', hold, hinto, hresult,
    hnew, -⟩
  · exact absurd rfl (hnot text)
  · obtain rfl : text = text' := by simpa using hresult
    have hcontent := Except.ok.inj (hread.symm.trans (readText_eq_ok_iff.mp hold))
    exact ⟨old, updated, hcontent, hinto,
      (read_eq_ok_iff.mp (readText_eq_ok_iff.mp hnew)).2⟩

/-! ### Listed files -/

/-- Whether a tree is one that a file system can hold: files and directories have names that can be
stored, and stand in directories. -/
structure Sound (t : FileTree) : Prop where
  isPlain : ∀ loc node, t.get? loc = some node → ∀ name ∈ loc, IsPlain name
  directory : ∀ loc node, t.get? loc = some node → t.get? loc.dropLast = some .directory

namespace Sound

variable {dir : Location} {node : Node}

/-- Whatever stands below a place stands below a directory. -/
theorem get?_of_append (h : t.Sound) {name : String} {rest : Location}
    (hnode : t.get? (dir ++ name :: rest) = some node) : t.get? dir = some .directory := by
  induction rest using List.reverseRecOn generalizing node with
  | nil => simpa using h.directory _ _ hnode
  | append_singleton rest last ih =>
    have hparent := h.directory _ _ hnode
    rw [← List.cons_append, ← List.append_assoc, List.dropLast_concat] at hparent
    exact ih hparent

/-- The names of what stands below a directory lead there. -/
theorem walkFrom (h : t.Sound) {names : Location} (hnode : t.get? (dir ++ names) = some node) :
    t.walkFrom dir (names.map String.toList) = .ok (dir ++ names) := by
  induction names generalizing dir with
  | nil => simp [FileTree.walkFrom]
  | cons name rest ih =>
    have hplain := h.isPlain _ _ hnode name (by simp)
    have hbelow : t.get? ((dir ++ [name]) ++ rest) = some node := by simpa using hnode
    have hrest := ih hbelow
    rw [List.map_cons, FileTree.walkFrom, h.get?_of_append hnode]
    simp only [hplain.isName.ne_nil, hplain.isName.ne_current, or_self, if_false,
      hplain.isName.ne_parent, String.ofList_toList, Nat.not_lt.mpr hplain.short]
    rw [hrest, List.append_assoc, List.singleton_append]

end Sound

/-- The path by which a listing comes to a file: the root, and then one name after the other. -/
def walkedPath (root : List Char) (names : Location) : List Char :=
  names.foldl (fun path name => join path name.toList) root

/-- The path of a walk is the path of its names below the root. -/
theorem walkedPath_eq (root : List Char) {names : Location} (hne : names ≠ [])
    (hnames : AreNames names) : walkedPath root names = join root (pathOf names).toList := by
  induction names using List.reverseRecOn with
  | nil => exact absurd rfl hne
  | append_singleton init last ih =>
    obtain ⟨hinit, hlast⟩ := areNames_append.mp hnames
    by_cases hnil : init = []
    · rw [hnil, List.nil_append, pathOf_singleton]
      rfl
    · have hmap : init.map String.toList ≠ [] := by simpa using hnil
      have hhead := Path.head?_intercalate_ne hlast.isStep
      rw [List.map_singleton, List.intercalate_singleton] at hhead
      rw [walkedPath, List.foldl_concat, ← walkedPath, ih hnil hinit, toList_pathOf, toList_pathOf,
        Path.join_join root hmap hinit.isStep hhead, List.map_append, List.map_singleton,
        Path.intercalate_concat hmap]

/-- A listing comes to the files that it lists by paths that have their identities. -/
theorem find_walkedPath_of_mem_listFiles (hsound : t.Sound) {root : String} {respectIgnore : Bool}
    {filter : FileFilter} {files : List String}
    (hlist : t.listFiles root respectIgnore filter = .ok files) {file : String}
    (hfile : file ∈ files) :
    ∃ names content, relativeTo? root.toList (walkedPath root.toList names) = some file.toList ∧
      t.find (walkedPath root.toList names) =
        .ok (location root.toList ++ names, .file content) := by
  obtain ⟨names, content, hne, hnode, -, rfl, -⟩ := (mem_listFiles hlist).mp hfile
  obtain ⟨henters, -⟩ := enters_of_find (listFiles_eq_ok hlist).1
  have hplain : ∀ name ∈ names, IsPlain name := fun name hname =>
    hsound.isPlain _ _ hnode name (List.mem_append_right _ hname)
  have hnames : AreNames names := fun name hname => (hplain name hname).isName
  have hmap : names.map String.toList ≠ [] := by simpa using hne
  refine ⟨names, content, ?_, ?_⟩
  · rw [walkedPath_eq _ hne hnames, toList_pathOf, Path.relativeTo?_join _ hmap hnames.isStep]
  · rw [walkedPath_eq _ hne hnames, find_eq_ok_iff, toList_pathOf]
    refine ⟨locate_eq_ok_iff.mpr ⟨fun hnil => ?_, ?_, ?_⟩, hnode⟩
    · have hcomponents := Path.components_join_steps root.toList hnames.isStep
      rw [hnil] at hcomponents
      exact hmap (List.map_eq_nil_iff.mp (List.append_eq_nil_iff.mp hcomponents.symm).2)
    · rw [Path.mem_iff_exists_mem_names (by decide) (by decide),
        Path.names_join_steps _ hnames.isStep]
      rintro ⟨step, hstep, hnul⟩
      rcases List.mem_append.mp hstep with hstep | hstep
      · exact henters.not_mem_nul
          ((Path.mem_iff_exists_mem_names (by decide) (by decide)).mpr ⟨step, hstep, hnul⟩)
      · obtain ⟨name, hname, rfl⟩ := List.mem_map.mp hstep
        exact (hplain name hname).not_mem_nul hnul
    · rw [henters.walkFrom_join (Path.head?_intercalate_ne hnames.isStep),
        Path.splitAtChar_intercalate hmap fun n hn => (hnames.isStep n hn).not_mem_slash]
      exact hsound.walkFrom hnode

/-- Identities and paths below a root are inverse to each other, whatever spelling the root has.
Steps that are put after the root have the identity made of them, and the path that an identity
names has the components of the path that has the identity. So paths with one identity have the same
components and lead to one location, and what is read or written by the identity of a path that
leads to a file reaches this file. A listing comes to each file by such a path. -/
theorem relativeTo?_join_inverse (root : String) :
    (∀ steps, steps ≠ [] → (∀ step ∈ steps, IsStep step) →
      relativeTo? root.toList (join root.toList (['/'].intercalate steps)) =
        some (['/'].intercalate steps)) ∧
    (∀ path id, relativeTo? root.toList path = some id →
      components (join root.toList id) = components path) ∧
    (∀ path path' id, relativeTo? root.toList path = some id →
      relativeTo? root.toList path' = some id →
      components path = components path' ∧ location path = location path') ∧
    (∀ (t : FileTree) path (id : String) place content,
      relativeTo? root.toList path = some id.toList →
      t.find path = .ok (place, .file content) → t.Reaches root id place content) ∧
    ∀ (t : FileTree) respectIgnore filter files, t.Sound →
      t.listFiles root respectIgnore filter = .ok files → ∀ file ∈ files, ∃ names content,
        relativeTo? root.toList (walkedPath root.toList names) = some file.toList ∧
        t.find (walkedPath root.toList names) =
          .ok (location root.toList ++ names, .file content) ∧
        t.Reaches root file (location root.toList ++ names) content := by
  have hreaches (t : FileTree) (path : List Char) (id : String) (place : Location)
      (content : ByteArray) (h : relativeTo? root.toList path = some id.toList)
      (hfind : t.find path = .ok (place, .file content)) : t.Reaches root id place content := by
    obtain ⟨hlocate, hnode⟩ := find_eq_ok_iff.mp hfind
    exact reaches_of_find (find_eq_ok_iff.mpr ⟨locate_join_of_relativeTo? h hlocate, hnode⟩)
  refine ⟨fun steps hne hsteps => Path.relativeTo?_join _ hne hsteps,
    fun path id h => Path.components_join_of_relativeTo? h, fun path path' id h h' => ?_, hreaches,
    fun t respectIgnore filter files hsound hlist file hfile => ?_⟩
  · have heq := Path.components_eq_of_relativeTo? h h'
    exact ⟨heq, Path.location_eq_of_components_eq heq⟩
  · obtain ⟨names, content, h, hfind⟩ := find_walkedPath_of_mem_listFiles hsound hlist hfile
    exact ⟨names, content, h, hfind, hreaches t _ file _ content h hfind⟩

/-- A tree with a file in a directory of a directory. -/
def nested : FileTree :=
  ⟨[(["w"], .directory), (["w", "gen"], .directory), (["w", "gen", "b.ts"], .file "y".toUTF8)],
    by decide⟩

/-- In this tree everything stands below directories. -/
theorem sound_nested : nested.Sound := by
  have hplain : ∀ e ∈ nested.entries, ∀ name ∈ e.1,
      IsName name.toList ∧ '\x00' ∉ name.toList ∧ name.utf8ByteSize ≤ maxNameLength := by decide
  have hdirectory : ∀ e ∈ nested.entries, nested.get? e.1.dropLast = some .directory := by decide
  constructor
  · intro loc node hnode name hname
    have hmem := (mem_entries_iff (List.ne_nil_of_mem hname)).mpr hnode
    obtain ⟨h₁, h₂, h₃⟩ := hplain _ hmem name hname
    exact ⟨h₁, h₂, h₃⟩
  · intro loc node hnode
    by_cases hloc : loc = []
    · rw [hloc]
      rfl
    · exact hdirectory _ ((mem_entries_iff hloc).mpr hnode)

/-- A root in another spelling than the paths below it. -/
theorem relativeTo?_join_inverse_nested :
    relativeTo? "./w//".toList (join "./w//".toList "../w/gen".toList) = some "../w/gen".toList ∧
    relativeTo? "./w//".toList "./w/./gen//b.ts".toList = some "gen/b.ts".toList ∧
    components (join "./w//".toList "gen/b.ts".toList) = components "./w/./gen//b.ts".toList ∧
    nested.Reaches "./w//" "gen/b.ts" ["w", "gen", "b.ts"] "y".toUTF8 ∧
    ∃ files, nested.listFiles "./w//" false (.endingIn ".ts") = .ok files ∧ "gen/b.ts" ∈ files ∧
      ∃ names content, nested.Reaches "./w//" "gen/b.ts" (["w"] ++ names) content := by
  obtain ⟨hjoin, hcomponents, -, hreaches, hlisted⟩ := relativeTo?_join_inverse "./w//"
  have hid : relativeTo? "./w//".toList "./w/./gen//b.ts".toList = some "gen/b.ts".toList := by
    decide
  have hroot : nested.find "./w//".toList = .ok (["w"], .directory) := by rfl
  obtain ⟨files, hfiles⟩ := exists_listFiles hroot false (.endingIn ".ts")
  have hfile : "gen/b.ts" ∈ files := by
    refine (mem_listFiles hfiles).mpr ⟨["gen", "b.ts"], "y".toUTF8, by decide, rfl, ?_, rfl, ?_⟩
    · rw [visits_false_iff (by decide)]
      decide
    · exact FileFilter.accepts_endingIn.mpr (by decide)
  refine ⟨?_, hid, hcomponents _ _ hid, ?_, files, hfiles, hfile, ?_⟩
  · exact hjoin ["..".toList, "w".toList, "gen".toList] (by decide) (by decide)
  · exact hreaches nested _ "gen/b.ts" _ _ hid (by rfl)
  · obtain ⟨names, content, -, -, h⟩ := hlisted nested false _ files sound_nested hfiles _ hfile
    exact ⟨names, content, h⟩

end FileTree

end TrackedComments

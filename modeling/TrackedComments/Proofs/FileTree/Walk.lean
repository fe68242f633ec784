import TrackedComments.FileTree.Basic
import TrackedComments.Proofs.FileTree.Names

/-!
# Where paths lead

A walk along a path may fail because of what stands in a tree, but the tree has no say in where the
walk leads: `..` goes back by one name, and every other part that says something is a name. So each
path has one location in all trees, and a walk that succeeds in one tree succeeds in every tree with
the same directories and more.

## Main results

* `FileTree.locate_eq`: a path that leads somewhere leads to its location.
* `Path.location_join`: a file below a root stands at the location of the root followed by its
  names.
* `FileTree.locate_of_directories`: a path leads on to its location as long as the directories stay.
-/

namespace TrackedComments

/-- The path that names lead along. -/
def pathOf (names : Location) : String :=
  "/".intercalate names

/-- Whether names can be those of files and directories. -/
def AreNames (names : Location) : Prop :=
  ∀ n ∈ names, IsName n.toList

theorem areNames_nil : AreNames [] := by simp [AreNames]

/-- The names of a place are proper if those of its two parts are. -/
theorem areNames_append {names more : Location} :
    AreNames (names ++ more) ↔ AreNames names ∧ AreNames more := by
  simp [AreNames, or_imp, forall_and]

theorem areNames_singleton {name : String} : AreNames [name] ↔ IsName name.toList := by
  simp [AreNames]

/-- A path is its names with slashes between them. -/
theorem toList_pathOf (names : Location) :
    (pathOf names).toList = ['/'].intercalate (names.map String.toList) := by
  rw [pathOf, String.toList_intercalate]
  rfl

theorem pathOf_singleton (name : String) : pathOf [name] = name :=
  String.intercalate_singleton

/-- A path ends in its last name. -/
theorem toList_suffix_pathOf (init : Location) (last : String) :
    last.toList <:+ (pathOf (init ++ [last])).toList := by
  rw [toList_pathOf, List.map_append, List.map_singleton]
  by_cases hinit : init = []
  · simp [hinit]
  · rw [Path.intercalate_concat (by simpa using hinit)]
    exact ⟨['/'].intercalate (init.map String.toList) ++ ['/'], by simp⟩

/-- Proper names are names, written as characters. -/
theorem AreNames.toList {names : Location} (h : AreNames names) :
    ∀ n ∈ names.map String.toList, IsName n := by
  simpa [AreNames] using h

/-- Proper names are steps. -/
theorem AreNames.isStep {names : Location} (h : AreNames names) :
    ∀ n ∈ names.map String.toList, IsStep n :=
  fun n hn => (h.toList n hn).isStep

/-- Paths made of names are equal only if the names are. -/
theorem pathOf_inj {names others : Location} (hnames : AreNames names) (hothers : AreNames others)
    (hne : names ≠ []) (hne' : others ≠ []) (h : pathOf names = pathOf others) :
    names = others := by
  have hchars : ['/'].intercalate (names.map String.toList) =
      ['/'].intercalate (others.map String.toList) := by
    rw [← toList_pathOf, h, toList_pathOf]
  have hmap := Path.intercalate_inj hnames.toList hothers.toList (by simpa using hne)
    (by simpa using hne') hchars
  exact List.map_inj_right (fun _ _ => String.toList_inj.mp) |>.mp hmap

namespace Path

/-- Where the parts of a path lead from a location. -/
def destination (loc : Location) : List (List Char) → Location
  | [] => loc
  | part :: rest =>
    if part = [] ∨ part = ['.'] then destination loc rest
    else if part = ['.', '.'] then destination loc.dropLast rest
    else destination (loc ++ [String.ofList part]) rest

/-- Where a path leads, if it leads anywhere. -/
def location (path : List Char) : Location :=
  destination [] (Chars.splitAtChar '/' path)

/-- A path leads where its second part leads from the place of its first. -/
theorem destination_append (loc : Location) (parts more : List (List Char)) :
    destination loc (parts ++ more) = destination (destination loc parts) more := by
  fun_induction destination loc parts with
  | case1 => rfl
  | case2 loc part rest h ih => rw [List.cons_append, destination, if_pos h, ih]
  | case3 loc rest h ih => rw [List.cons_append, destination, if_neg h, if_pos rfl, ih]
  | case4 loc part rest h hparent ih =>
    rw [List.cons_append, destination, if_neg h, if_neg hparent, ih]

/-- Names lead further down. -/
theorem destination_names {names : Location} (h : AreNames names) (loc : Location) :
    destination loc (names.map String.toList) = loc ++ names := by
  induction names generalizing loc with
  | nil => simp [destination]
  | cons n names ih =>
    have hn : IsName n.toList := h n List.mem_cons_self
    have hrest : AreNames names := fun m hm => h m (List.mem_cons_of_mem _ hm)
    rw [List.map_cons, destination, if_neg (by simp [hn.ne_nil, hn.ne_current]),
      if_neg hn.ne_parent, ih hrest, String.ofList_toList, List.append_assoc,
      List.singleton_append]

/-- Only names are walked down. -/
theorem areNames_destination {parts : List (List Char)} (hparts : ∀ p ∈ parts, '/' ∉ p)
    {loc : Location} (hloc : AreNames loc) : AreNames (destination loc parts) := by
  fun_induction destination loc parts with
  | case1 => exact hloc
  | case2 loc part rest _ ih => exact ih (fun p hp => hparts p (List.mem_cons_of_mem _ hp)) hloc
  | case3 loc rest _ ih =>
    exact ih (fun p hp => hparts p (List.mem_cons_of_mem _ hp))
      fun n hn => hloc n (List.dropLast_subset _ hn)
  | case4 loc part rest h hparent ih =>
    refine ih (fun p hp => hparts p (List.mem_cons_of_mem _ hp)) (areNames_append.mpr ⟨hloc, ?_⟩)
    rw [areNames_singleton, String.toList_ofList]
    exact ⟨fun hnil => h (.inl hnil), fun hdot => h (.inr hdot), hparent,
      hparts part List.mem_cons_self⟩

/-- Every path leads to a place with proper names. -/
theorem areNames_location (path : List Char) : AreNames (location path) :=
  areNames_destination (fun _ => Chars.not_mem_of_mem_splitAtChar) areNames_nil

/-- A slash at the end does not change where a path leads. -/
theorem destination_concat_nil (loc : Location) (parts : List (List Char)) :
    destination loc (parts ++ [[]]) = destination loc parts := by
  rw [destination_append]
  rfl

/-- A file below a root stands at the location of the root followed by its names. -/
theorem location_join (root : List Char) {names : Location} (hne : names ≠ [])
    (h : AreNames names) : location (join root (pathOf names).toList) = location root ++ names := by
  obtain ⟨parts, hroot, hjoin⟩ := exists_splitAtChar_join root
  have hmap : names.map String.toList ≠ [] := by simpa using hne
  have hparts : destination [] parts = location root := by
    rcases hroot with hroot | hroot
    · rw [location, hroot]
    · rw [location, hroot, destination_concat_nil]
  rw [location, toList_pathOf, hjoin _ (head?_intercalate_ne h.isStep),
    splitAtChar_intercalate hmap fun n hn => (h.toList n hn).not_mem_slash, destination_append,
    hparts, destination_names h]

/-- A single name below a root. -/
theorem location_join_name (root : List Char) {name : String} (h : IsName name.toList) :
    location (join root name.toList) = location root ++ [name] := by
  have hjoin := location_join root (List.cons_ne_nil name []) (areNames_singleton.mpr h)
  rwa [toList_pathOf, List.map_singleton, List.intercalate_singleton] at hjoin

/-- A path that ends in a name leads to that name, wherever the rest of it leads. -/
theorem exists_location_append {before : List Char}
    (hbefore : before = [] ∨ ∃ more, before = more ++ ['/']) :
    ∃ loc : Location, ∀ last : List Char, IsName last →
      location (before ++ last) = loc ++ [String.ofList last] := by
  obtain ⟨parts, hparts⟩ := exists_splitAtChar_append hbefore
  refine ⟨destination [] parts, fun last hlast => ?_⟩
  rw [location, hparts last hlast.not_mem_slash, destination_append]
  simp [destination, hlast.ne_nil, hlast.ne_current, hlast.ne_parent]

end Path

namespace FileTree

/-- A walk that leads somewhere leads to the destination of the parts. -/
theorem walkFrom_eq {t : FileTree} {loc loc' : Location} {parts : List (List Char)}
    (h : t.walkFrom loc parts = .ok loc') : loc' = Path.destination loc parts := by
  induction parts generalizing loc with
  | nil => exact (Except.ok.inj h).symm
  | cons part rest ih =>
    unfold walkFrom at h
    unfold Path.destination
    split at h
    · simp at h
    · simp at h
    · split
      · exact ih (by simpa only [if_pos ‹_›] using h)
      · rw [if_neg ‹_›] at h
        split
        · exact ih (by simpa only [if_pos ‹_›] using h)
        · rw [if_neg ‹_›] at h
          dsimp only at h
          split at h
          · simp at h
          · exact ih h

/-- A path is located if it is not empty, holds no null character and can be walked. -/
theorem locate_eq_ok_iff {t : FileTree} {path : List Char} {loc : Location} :
    t.locate path = .ok loc ↔
      path ≠ [] ∧ '\x00' ∉ path ∧ t.walkFrom [] (Chars.splitAtChar '/' path) = .ok loc := by
  unfold locate
  split
  · simp_all
  · split <;> simp_all

/-- A path that leads somewhere leads to its location. -/
theorem locate_eq {t : FileTree} {path : List Char} {loc : Location}
    (h : t.locate path = .ok loc) : loc = Path.location path :=
  walkFrom_eq (locate_eq_ok_iff.mp h).2.2

/-- A path is found if it is located in a place in which something stands. -/
theorem find_eq_ok_iff {t : FileTree} {path : List Char} {loc : Location} {node : Node} :
    t.find path = .ok (loc, node) ↔ t.locate path = .ok loc ∧ t.get? loc = some node := by
  unfold find
  constructor
  · intro h
    split at h
    · simp at h
    · rename_i hlocate
      split at h
      · simp at h
      · rename_i hnode
        obtain ⟨rfl, rfl⟩ := Prod.mk.inj (Except.ok.inj h)
        exact ⟨hlocate, hnode⟩
  · rintro ⟨hlocate, hnode⟩
    simp only [hlocate, hnode]

/-- A walk from a directory or a file that leads to a directory starts from one. -/
theorem get?_of_walkFrom {t : FileTree} {loc loc' : Location} {parts : List (List Char)}
    (h : t.walkFrom loc parts = .ok loc') (hloc' : t.get? loc' = some .directory) :
    t.get? loc = some .directory := by
  cases parts with
  | nil =>
    obtain rfl := Except.ok.inj h
    exact hloc'
  | cons part rest =>
    unfold walkFrom at h
    split at h
    · simp at h
    · simp at h
    · assumption

/-- A walk goes on from where its first part leads. -/
theorem walkFrom_append_of_ok {t : FileTree} {loc loc' : Location} {parts more : List (List Char)}
    (h : t.walkFrom loc parts = .ok loc') :
    t.walkFrom loc (parts ++ more) = t.walkFrom loc' more := by
  fun_induction walkFrom t loc parts with
  | case1 =>
    obtain rfl := Except.ok.inj h
    rfl
  | case2 => simp at h
  | case3 => simp at h
  | case4 loc part rest hdir hsays ih =>
    rw [List.cons_append, walkFrom, hdir]
    simpa only [if_pos hsays] using ih h
  | case5 loc rest hdir hsays ih =>
    rw [List.cons_append, walkFrom, hdir]
    simpa only [if_neg hsays, if_true] using ih h
  | case6 => simp at h
  | case7 loc part rest hdir hsays hparent name hlength ih =>
    rw [List.cons_append, walkFrom, hdir]
    simpa only [if_neg hsays, if_neg hparent, name, if_neg hlength] using ih h

/-- The first part of a walk leads to a directory, if there is a second one. -/
theorem walkFrom_append {t : FileTree} {loc loc' : Location} {parts : List (List Char)}
    {part : List Char} {rest : List (List Char)}
    (h : t.walkFrom loc (parts ++ part :: rest) = .ok loc') :
    t.walkFrom loc parts = .ok (Path.destination loc parts) ∧
      t.get? (Path.destination loc parts) = some .directory := by
  induction parts generalizing loc with
  | nil =>
    refine ⟨rfl, ?_⟩
    rw [List.nil_append, walkFrom] at h
    split at h
    · simp at h
    · simp at h
    · assumption
  | cons first parts ih =>
    rw [List.cons_append] at h
    unfold walkFrom at h ⊢
    unfold Path.destination
    split at h
    · simp at h
    · simp at h
    · by_cases hsays : first = [] ∨ first = ['.']
      · simp only [if_pos hsays] at h ⊢
        exact ih h
      · by_cases hparent : first = ['.', '.']
        · simp only [if_neg hsays, if_pos hparent] at h ⊢
          exact ih h
        · simp only [if_neg hsays, if_neg hparent] at h ⊢
          split at h
          · simp at h
          · rw [if_neg ‹_›]
            exact ih h

/-- A walk down from a directory leads through directories. -/
theorem get?_of_prefix_of_walkFrom {t : FileTree} {loc loc' : Location} {parts : List (List Char)}
    (h : t.walkFrom loc parts = .ok loc')
    (hloc : ∀ l, l <+: loc.dropLast → t.get? l = some .directory) :
    ∀ l, l <+: loc'.dropLast → t.get? l = some .directory := by
  fun_induction walkFrom t loc parts with
  | case1 =>
    obtain rfl := Except.ok.inj h
    exact hloc
  | case2 => simp at h
  | case3 => simp at h
  | case4 loc part rest hdir hsays ih => exact ih h hloc
  | case5 loc rest hdir hsays ih =>
    exact ih h fun l hl => hloc l (hl.trans (List.dropLast_prefix _))
  | case6 => simp at h
  | case7 loc part rest hdir hsays hparent name hlength ih =>
    refine ih h fun l hl => ?_
    rw [List.dropLast_concat] at hl
    obtain ⟨more, rfl⟩ := hl
    rcases List.eq_nil_or_concat more with rfl | ⟨init, last, rfl⟩
    · rwa [List.append_nil] at hdir
    · refine hloc l ?_
      rw [List.concat_eq_append, ← List.append_assoc, List.dropLast_concat]
      exact List.prefix_append l init

/-- What a path leads to stands in a directory. -/
theorem get?_dropLast_of_walkFrom {t : FileTree} {loc : Location} {parts : List (List Char)}
    (h : t.walkFrom [] parts = .ok loc) : t.get? loc.dropLast = some .directory := by
  refine get?_of_prefix_of_walkFrom h (fun l hl => ?_) _ (List.prefix_refl _)
  rw [List.prefix_nil.mp hl]
  rfl

/-- A tree with the directories of another one and perhaps more. -/
def HasDirectoriesOf (t' t : FileTree) : Prop :=
  ∀ loc, t.get? loc = some .directory → t'.get? loc = some .directory

theorem HasDirectoriesOf.refl (t : FileTree) : t.HasDirectoriesOf t :=
  fun _ h => h

/-- A tree has the directories of every tree whose directories it has. -/
theorem HasDirectoriesOf.trans {t t' t'' : FileTree} (h : t'.HasDirectoriesOf t)
    (h' : t''.HasDirectoriesOf t') : t''.HasDirectoriesOf t :=
  fun loc hloc => h' loc (h loc hloc)

/-- A way through directories can be walked where there are the same directories. -/
theorem walkFrom_of_directories {t t' : FileTree} (hdirs : t'.HasDirectoriesOf t)
    {loc loc' : Location} {parts : List (List Char)} (h : t.walkFrom loc parts = .ok loc') :
    t'.walkFrom loc parts = .ok loc' := by
  fun_induction walkFrom t loc parts with
  | case1 => exact h
  | case2 => simp at h
  | case3 => simp at h
  | case4 loc part rest hdir hsays ih =>
    rw [walkFrom, hdirs loc hdir]
    simpa only [if_pos hsays] using ih h
  | case5 loc rest hdir hsays ih =>
    rw [walkFrom, hdirs loc hdir]
    simpa only [if_neg hsays, if_true] using ih h
  | case6 => simp at h
  | case7 loc part rest hdir hsays hparent name hlength ih =>
    rw [walkFrom, hdirs loc hdir]
    simpa only [if_neg hsays, if_neg hparent, name, if_neg hlength] using ih h

/-- A path leads on to its location as long as the directories stay. -/
theorem locate_of_directories {t t' : FileTree} (hdirs : t'.HasDirectoriesOf t) {path : List Char}
    {loc : Location} (h : t.locate path = .ok loc) : t'.locate path = .ok loc := by
  obtain ⟨hne, hnul, hwalk⟩ := locate_eq_ok_iff.mp h
  exact locate_eq_ok_iff.mpr ⟨hne, hnul, walkFrom_of_directories hdirs hwalk⟩

/-! ### Directories that a path leads to -/

/-- A path that leads to a directory in which files can stand. The empty path is such a path,
although nothing can be found by it. -/
structure Enters (t : FileTree) (path : List Char) : Prop where
  not_mem_nul : '\x00' ∉ path
  walk : t.walkFrom [] (Chars.splitAtChar '/' path) = .ok (Path.location path)
  directory : t.get? (Path.location path) = some .directory

/-- A directory can be entered where there are the same directories. -/
theorem Enters.of_directories {t t' : FileTree} {path : List Char} (h : t.Enters path)
    (hdirs : t'.HasDirectoriesOf t) : t'.Enters path :=
  ⟨h.not_mem_nul, walkFrom_of_directories hdirs h.walk, hdirs _ h.directory⟩

/-- A directory that is found can be entered. -/
theorem enters_of_find {t : FileTree} {path : List Char} {loc : Location}
    (h : t.find path = .ok (loc, .directory)) : t.Enters path ∧ loc = Path.location path := by
  obtain ⟨hlocate, hnode⟩ := find_eq_ok_iff.mp h
  obtain rfl := locate_eq hlocate
  obtain ⟨-, hnul, hwalk⟩ := locate_eq_ok_iff.mp hlocate
  exact ⟨⟨hnul, hwalk, hnode⟩, rfl⟩

/-- A root below which a path leads somewhere can be entered. -/
theorem enters_of_locate_join {t : FileTree} {root : List Char} {names loc : Location}
    (hne : names ≠ []) (hnames : AreNames names)
    (h : t.locate (Path.join root (pathOf names).toList) = .ok loc) : t.Enters root := by
  obtain ⟨parts, hroot, hjoin⟩ := Path.exists_splitAtChar_join root
  have hmap : names.map String.toList ≠ [] := by simpa using hne
  have hhead : (pathOf names).toList.head? ≠ some '/' := by
    rw [toList_pathOf]
    exact Path.head?_intercalate_ne hnames.isStep
  obtain ⟨part, rest, hfile⟩ : ∃ part rest,
      Chars.splitAtChar '/' (pathOf names).toList = part :: rest :=
    List.exists_cons_of_ne_nil (Chars.splitWhen_ne_nil _ _)
  obtain ⟨-, hnul, hwalk⟩ := locate_eq_ok_iff.mp h
  rw [hjoin _ hhead, hfile] at hwalk
  obtain ⟨hwalk, hdir⟩ := walkFrom_append hwalk
  have hlocation : Path.location root = Path.destination [] parts := by
    rcases hroot with hroot | hroot
    · rw [Path.location, hroot]
    · rw [Path.location, hroot, Path.destination_concat_nil]
  refine ⟨fun hmem => hnul (Path.mem_join_of_mem hhead hmem), ?_, hlocation ▸ hdir⟩
  rw [hlocation]
  rcases hroot with hroot | hroot
  · rw [hroot, hwalk]
  · rw [hroot, walkFrom_append_of_ok hwalk, walkFrom, hdir]
    rfl

/-- Below a directory that can be entered, a path leads on from there. -/
theorem Enters.walkFrom_join {t : FileTree} {root file : List Char} (h : t.Enters root)
    (hfile : file.head? ≠ some '/') :
    t.walkFrom [] (Chars.splitAtChar '/' (Path.join root file)) =
      t.walkFrom (Path.location root) (Chars.splitAtChar '/' file) := by
  obtain ⟨parts, hroot, hjoin⟩ := Path.exists_splitAtChar_join root
  have hwalk := h.walk
  rw [hjoin file hfile]
  rcases hroot with hroot | hroot
  · rw [hroot] at hwalk
    exact walkFrom_append_of_ok hwalk
  · rw [hroot] at hwalk
    have hlocation : Path.location root = Path.destination [] parts := by
      rw [Path.location, hroot, Path.destination_concat_nil]
    rw [hlocation]
    exact walkFrom_append_of_ok (walkFrom_append hwalk).1

/-- A name below a directory that can be entered leads somewhere, if it is not too long. -/
theorem Enters.locate_join {t : FileTree} {root : List Char} {name : String} (h : t.Enters root)
    (hname : IsName name.toList) (hnul : '\x00' ∉ name.toList)
    (hlength : name.utf8ByteSize ≤ maxNameLength) :
    t.locate (Path.join root name.toList) = .ok (Path.location root ++ [name]) := by
  have hhead : name.toList.head? ≠ some '/' := fun hhead =>
    hname.not_mem_slash (List.mem_of_mem_head? hhead)
  have hne : Path.join root name.toList ≠ [] := by
    rw [Path.join_of_head?_ne hhead]
    split <;> simp [hname.ne_nil]
  have hnot : '\x00' ∉ Path.join root name.toList := by
    have hroot := h.not_mem_nul
    rw [Path.join_of_head?_ne hhead]
    split <;> simp [hroot, hnul]
  refine locate_eq_ok_iff.mpr ⟨hne, hnot, ?_⟩
  rw [h.walkFrom_join hhead, Chars.splitAtChar_of_not_mem hname.not_mem_slash, walkFrom,
    h.directory]
  simp only [hname.ne_nil, hname.ne_current, or_self, if_false, hname.ne_parent,
    String.ofList_toList, Nat.not_lt.mpr hlength]
  rfl

end FileTree

end TrackedComments

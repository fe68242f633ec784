import Mathlib.Data.List.Nodup
import TrackedComments.Proofs.FileTree.Frame
import TrackedComments.Proofs.StableSort
import TrackedComments.Source.Basic

/-!
# What a directory lists

The files that a directory lists are those that stand below it, pass the filter and are not left
out; each of them is listed once. What is left out depends on the ignore files alone, so that a
change of other files can make files appear in the list or disappear from it only by creating or
removing them.

## Main results

* `FileTree.mem_listFiles`: which files are listed.
* `FileTree.nodup_listFiles`: no file is listed twice.
* `FileTree.visits_congr`: what is left out depends on the ignore files.
-/

namespace TrackedComments

/-- What comes after the front of a list is left when the front is dropped. -/
theorem Path.dropPrefix?_append {α : Type} [DecidableEq α] (before rest : List α) :
    Path.dropPrefix? before (before ++ rest) = some rest :=
  Path.dropPrefix?_eq_some_iff.mpr rfl

/-- Sorting keeps the texts. -/
theorem mem_sortTexts {texts : List String} {text : String} :
    text ∈ sortTexts texts ↔ text ∈ texts :=
  (List.mergeSort_perm texts _).mem_iff

/-- Sorting does not repeat a text. -/
theorem nodup_sortTexts {texts : List String} (h : texts.Nodup) : (sortTexts texts).Nodup :=
  (List.mergeSort_perm texts _).nodup_iff.mpr h

/-- Sorted texts ascend. -/
theorem pairwise_sortTexts (texts : List String) : (sortTexts texts).Pairwise (· ≤ ·) :=
  pairwise_mergeSort_key id texts

/-! ### Ignore files -/

/-- The names at the ends of the paths of ignore files. -/
def ignoreNames : List Location :=
  [[".ignore"], [".gitignore"], [".git", "info", "exclude"]]

/-- Whether the rules of ignore files are read from a location. -/
def IsIgnoreFile (loc : Location) : Prop :=
  ∃ names ∈ ignoreNames, names <:+ loc

/-- An ignore file has one of three names. -/
theorem last_of_isIgnoreFile {init : Location} {last : String}
    (h : IsIgnoreFile (init ++ [last])) : last ∈ [".ignore", ".gitignore", "exclude"] := by
  obtain ⟨names, hnames, before, heq⟩ := h
  have hlast := congrArg List.getLast? heq
  rw [List.getLast?_concat] at hlast
  simp only [ignoreNames, List.mem_cons, List.not_mem_nil, or_false] at hnames
  rcases hnames with rfl | rfl | rfl <;> simp at hlast <;> simp [← hlast]

namespace FileTree

/-- The rules of a kind come from the files with the given names. -/
theorem mem_ignoreRules {t : FileTree} {names dir : Location} {rules : List IgnoreRule}
    (hne : names ≠ []) :
    (dir, rules) ∈ t.ignoreRules names ↔
      ∃ content, t.get? (dir ++ names) = some (.file content) ∧
        rules = readIgnoreRules content := by
  have hplace {dir : Location} : dir ++ names ≠ [] := by simp [hne]
  simp only [ignoreRules, List.mem_filterMap, Prod.exists]
  constructor
  · rintro ⟨loc, node, hmem, hrule⟩
    cases node with
    | directory => simp at hrule
    | file content =>
      rw [Option.ite_none_right_eq_some, Option.some.injEq, Prod.mk.injEq] at hrule
      obtain ⟨hnames, rfl, rfl⟩ := hrule
      have hloc : loc.take (loc.length - names.length) ++ names = loc := by
        conv_rhs => rw [← List.take_append_drop (loc.length - names.length) loc, hnames]
      exact ⟨content, (mem_entries_iff hplace).mp (hloc.symm ▸ hmem), rfl⟩
  · rintro ⟨content, hget, rfl⟩
    exact ⟨dir ++ names, .file content, (mem_entries_iff hplace).mpr hget, by simp⟩

/-- The rules for a directory are those of the file with the given names in it. -/
theorem lookup_ignoreRules (t : FileTree) {names : Location} (hne : names ≠ []) (dir : Location) :
    (t.ignoreRules names).lookup dir =
      match t.get? (dir ++ names) with
      | some (.file content) => some (readIgnoreRules content)
      | _ => none := by
  cases hlookup : (t.ignoreRules names).lookup dir with
  | some rules =>
    obtain ⟨content, hget, rfl⟩ := (mem_ignoreRules hne).mp (mem_of_lookup_eq_some hlookup)
    rw [hget]
  | none =>
    split
    · rename_i content hget
      have hmem := (mem_ignoreRules hne).mpr ⟨content, hget, rfl⟩
      simpa using List.lookup_eq_none_iff.mp hlookup _ hmem
    · rfl

/-- Trees with the same ignore files have the same rules. -/
theorem lookup_ignoreRules_congr {t t' : FileTree}
    (h : ∀ loc, IsIgnoreFile loc → t'.get? loc = t.get? loc) {names : Location}
    (hnames : names ∈ ignoreNames) (dir : Location) :
    (t'.ignoreRules names).lookup dir = (t.ignoreRules names).lookup dir := by
  have hne : names ≠ [] := by
    rintro rfl
    simp [ignoreNames] at hnames
  rw [lookup_ignoreRules t' hne, lookup_ignoreRules t hne,
    h _ ⟨names, hnames, List.suffix_append _ _⟩]

/-- A verdict depends only on the rules of each directory. -/
theorem verdict?_congr {rules rules' : RulesByDirectory}
    (h : ∀ dir, rules'.lookup dir = rules.lookup dir) (loc : Location) (isDirectory : Bool) :
    rules'.verdict? loc isDirectory = rules.verdict? loc isDirectory := by
  simp only [RulesByDirectory.verdict?, h]

/-- What is ignored depends on the ignore files alone. -/
theorem isIgnored_congr {t t' : FileTree}
    (h : ∀ loc, IsIgnoreFile loc → t'.get? loc = t.get? loc) (loc : Location)
    (isDirectory : Bool) :
    isIgnored t'.allIgnoreRules loc isDirectory = isIgnored t.allIgnoreRules loc isDirectory := by
  have hverdict (names : Location) (hnames : names ∈ ignoreNames) :=
    verdict?_congr (lookup_ignoreRules_congr h hnames) loc isDirectory
  simp only [isIgnored, allIgnoreRules, List.findSome?_cons,
    hverdict [".ignore"] (by simp [ignoreNames]),
    hverdict [".gitignore"] (by simp [ignoreNames]),
    hverdict [".git", "info", "exclude"] (by simp [ignoreNames])]

/-! ### Texts -/

/-- A source file that has a text reads as that text. -/
theorem readText_of_readSource {t : FileTree} {root file text : String}
    (h : t.readSource root file = .ok text) :
    t.readText (Path.join root.toList file.toList) = .ok text := by
  unfold readSource pathBelow at h
  dsimp only at h
  rw [String.toList_ofList] at h
  split at h
  · simp at h
  · rename_i content hread
    split at h
    · simp at h
    · split at h
      · simp at h
      · rename_i htext
        obtain rfl := Except.ok.inj h
        exact readText_eq_ok_iff.mpr (hread.trans (congrArg _ (fromUTF8?_eq_some_iff.mp htext)))

/-- A source file that stands elsewhere reads as before, or fails as before. -/
theorem ChangesOnly.readSource_eq {t t' : FileTree} {places : List Location}
    (h : t.ChangesOnly places t') {root file : String}
    (hplace : Path.location (Path.join root.toList file.toList) ∉ places) :
    t'.readSource root file = t.readSource root file := by
  unfold readSource pathBelow
  dsimp only
  rw [String.toList_ofList]
  cases hread : t.read (Path.join root.toList file.toList) with
  | ok content => rw [h.read hplace hread]
  | error e =>
    cases hread' : t'.read (Path.join root.toList file.toList) with
    | ok content => simp [h.symm.read hplace hread'] at hread
    | error e' => rfl

/-! ### Listed files -/

/-- An entry is visited if no name on the way to it is `.git` and the rules leave nothing out there.
-/
theorem isVisited_iff {rules : List RulesByDirectory} {dir names : Location} :
    isVisited rules dir names ↔
      ".git" ∉ names ∧ ∀ n < names.length,
        isIgnored rules (dir ++ names.take (n + 1)) (n + 1 < names.length) = false := by
  have hgit : (∀ n < names.length, names[n]? ≠ some ".git") ↔ ".git" ∉ names := by
    rw [List.mem_iff_getElem?, not_exists]
    refine forall_congr' fun n => ⟨fun h hget => ?_, fun h _ => h⟩
    exact h (List.getElem?_eq_some_iff.mp hget).1 hget
  rw [isVisited, List.all_eq_true, ← hgit]
  simp [forall_and]

/-- Whether a listing of a root goes to what stands at some names below it, with or without regard
to ignore rules. -/
def Visits (t : FileTree) (root : String) (respectIgnore : Bool) (names : Location) : Prop :=
  passesOver root respectIgnore = false ∧
    isVisited (t.rulesFor respectIgnore) (Path.location root.toList) names

/-- Nothing below an entry named `.git` is listed. -/
theorem Visits.not_mem_git {t : FileTree} {root : String} {names : Location} {respectIgnore : Bool}
    (h : t.Visits root respectIgnore names) : ".git" ∉ names :=
  (isVisited_iff.mp h.2).1

/-- What is left out depends on the ignore files. -/
theorem visits_congr {t t' : FileTree} (h : ∀ loc, IsIgnoreFile loc → t'.get? loc = t.get? loc)
    {root : String} {respectIgnore : Bool} {names : Location} :
    t'.Visits root respectIgnore names ↔ t.Visits root respectIgnore names := by
  unfold Visits
  cases respectIgnore with
  | false => rfl
  | true => simp only [isVisited, rulesFor, if_true, isIgnored_congr h]

/-- The files below a directory, with their names from there. -/
theorem mem_filesBelow {t : FileTree} {dir names : Location} {content : ByteArray} :
    (names, content) ∈ t.filesBelow dir ↔
      names ≠ [] ∧ t.get? (dir ++ names) = some (.file content) := by
  rw [filesBelow, List.mem_filterMap]
  constructor
  · rintro ⟨⟨loc, node⟩, hmem, he⟩
    dsimp only at he
    split at he
    · rename_i content' name rest hpre
      obtain ⟨rfl, rfl⟩ := Prod.mk.inj (Option.some.inj he)
      have hloc := Path.dropPrefix?_eq_some_iff.mp hpre
      subst hloc
      exact ⟨List.cons_ne_nil name rest, (mem_entries_iff (by simp)).mp hmem⟩
    · simp at he
  · rintro ⟨hne, hget⟩
    obtain ⟨name, rest, rfl⟩ := List.exists_cons_of_ne_nil hne
    refine ⟨(dir ++ name :: rest, .file content), (mem_entries_iff (by simp)).mpr hget, ?_⟩
    simp only [Path.dropPrefix?_append]

/-- No file below a directory is listed twice. -/
theorem nodup_filesBelow (t : FileTree) (dir : Location) :
    ((t.filesBelow dir).map Prod.fst).Nodup := by
  rw [List.Nodup, List.pairwise_map, filesBelow, List.pairwise_filterMap]
  have hkeys := t.nodup
  rw [List.Nodup, List.pairwise_map] at hkeys
  refine hkeys.imp fun {e e'} hne f hf f' hf' heq => hne ?_
  obtain ⟨loc, node⟩ := e
  obtain ⟨loc', node'⟩ := e'
  dsimp only at hf hf'
  split at hf
  · rename_i hpre
    split at hf'
    · rename_i hpre'
      obtain rfl := Option.some.inj hf
      obtain rfl := Option.some.inj hf'
      dsimp only at heq ⊢
      rw [Path.dropPrefix?_eq_some_iff.mp hpre, Path.dropPrefix?_eq_some_iff.mp hpre', heq]
    · simp at hf'
  · simp at hf

/-- The files that are visited, with the paths by which they are known. -/
theorem mem_visitedFiles {t : FileTree} {root : String} {respectIgnore : Bool} {file : String} :
    file ∈ t.visitedFiles root (Path.location root.toList) respectIgnore ↔
      ∃ names content, names ≠ [] ∧
        t.get? (Path.location root.toList ++ names) = some (.file content) ∧
        t.Visits root respectIgnore names ∧ file = pathOf names := by
  unfold visitedFiles Visits
  cases passesOver root respectIgnore with
  | true => simp
  | false =>
    simp only [Bool.false_eq_true, if_false, List.mem_map, List.mem_filter, Prod.exists,
      mem_filesBelow, true_and, pathOf]
    constructor
    · rintro ⟨names, content, ⟨⟨hne, hget⟩, hvisited⟩, rfl⟩
      exact ⟨names, content, hne, hget, hvisited, rfl⟩
    · rintro ⟨names, content, hne, hget, hvisited, rfl⟩
      exact ⟨names, content, ⟨⟨hne, hget⟩, hvisited⟩, rfl⟩

/-- No file is visited twice. -/
theorem nodup_visitedFiles {t : FileTree} (h : t.WellNamed) (root : String) (loc : Location)
    (respectIgnore : Bool) : (t.visitedFiles root loc respectIgnore).Nodup := by
  unfold visitedFiles
  split
  · exact List.nodup_nil
  · have hkeys := nodup_filesBelow t loc
    rw [List.Nodup, List.pairwise_map] at hkeys ⊢
    refine (hkeys.sublist List.filter_sublist).imp_of_mem fun {e e'} he he' hne heq => hne ?_
    have hbelow := mem_filesBelow.mp (List.mem_of_mem_filter he)
    have hbelow' := mem_filesBelow.mp (List.mem_of_mem_filter he')
    exact pathOf_inj (areNames_append.mp (h.of_get? hbelow.2)).2
      (areNames_append.mp (h.of_get? hbelow'.2)).2 hbelow.1 hbelow'.1 heq

/-- The list of a directory. -/
theorem listFiles_eq_ok {t : FileTree} {root : String} {respectIgnore : Bool} {filter : FileFilter}
    {files : List String} (h : t.listFiles root respectIgnore filter = .ok files) :
    t.find root.toList = .ok (Path.location root.toList, .directory) ∧
      files = sortTexts
        ((t.visitedFiles root (Path.location root.toList) respectIgnore).filter
          filter.accepts) := by
  unfold listFiles at h
  split at h
  · rename_i loc hfind
    obtain ⟨-, rfl⟩ := enters_of_find hfind
    exact ⟨hfind, (Except.ok.inj h).symm⟩
  · simp at h

/-- Which files are listed. -/
theorem mem_listFiles {t : FileTree} {root : String} {respectIgnore : Bool} {filter : FileFilter}
    {files : List String} (h : t.listFiles root respectIgnore filter = .ok files) {file : String} :
    file ∈ files ↔
      ∃ names content, names ≠ [] ∧
        t.get? (Path.location root.toList ++ names) = some (.file content) ∧
        t.Visits root respectIgnore names ∧ file = pathOf names ∧ filter.accepts file := by
  obtain ⟨-, rfl⟩ := listFiles_eq_ok h
  rw [mem_sortTexts, List.mem_filter, mem_visitedFiles]
  constructor
  · rintro ⟨⟨names, content, hne, hget, hvisits, rfl⟩, haccepts⟩
    exact ⟨names, content, hne, hget, hvisits, rfl, haccepts⟩
  · rintro ⟨names, content, hne, hget, hvisits, rfl, haccepts⟩
    exact ⟨⟨names, content, hne, hget, hvisits, rfl⟩, haccepts⟩

/-- No file is listed twice. -/
theorem nodup_listFiles {t : FileTree} (hnames : t.WellNamed) {root : String}
    {respectIgnore : Bool} {filter : FileFilter} {files : List String}
    (h : t.listFiles root respectIgnore filter = .ok files) : files.Nodup := by
  obtain ⟨-, rfl⟩ := listFiles_eq_ok h
  exact nodup_sortTexts ((nodup_visitedFiles hnames root _ respectIgnore).filter _)

/-- The listed files stand in ascending order. -/
theorem pairwise_listFiles {t : FileTree} {root : String} {respectIgnore : Bool}
    {filter : FileFilter} {files : List String}
    (h : t.listFiles root respectIgnore filter = .ok files) : files.Pairwise (· ≤ ·) := by
  obtain ⟨-, rfl⟩ := listFiles_eq_ok h
  exact pairwise_sortTexts _

/-- A file that stands elsewhere is listed as before, unless an ignore file has changed. -/
theorem ChangesOnly.mem_listFiles {t t' : FileTree} {places : List Location}
    (h : t.ChangesOnly places t') (hplaces : ∀ loc ∈ places, ¬ IsIgnoreFile loc) {root : String}
    {respectIgnore : Bool} {filter : FileFilter} {files : List String}
    (hlist : t.listFiles root respectIgnore filter = .ok files) {file : String}
    (hfile : ∀ names, file = pathOf names → Path.location root.toList ++ names ∉ places)
    (hmem : file ∈ files) {files' : List String}
    (hlist' : t'.listFiles root respectIgnore filter = .ok files') : file ∈ files' := by
  have hignore : ∀ loc, IsIgnoreFile loc → t'.get? loc = t.get? loc :=
    fun loc hloc => h.get?_eq loc fun hmem => hplaces loc hmem hloc
  obtain ⟨names, content, hne, hget, hvisits, hpath, haccepts⟩ :=
    (FileTree.mem_listFiles hlist).mp hmem
  exact (FileTree.mem_listFiles hlist').mpr ⟨names, content, hne,
    (h.get?_eq _ (hfile names hpath)).trans hget, (visits_congr hignore).mpr hvisits, hpath,
    haccepts⟩

end FileTree

/-- Whether a file can be among those that a directory lists for a filter. -/
def FileFilter.Lists (filter : FileFilter) (file : String) : Prop :=
  ∃ names, names ≠ [] ∧ AreNames names ∧ file = pathOf names ∧ filter.accepts file

/-- The listed files pass the filter. -/
theorem FileTree.lists_of_mem_listFiles {t : FileTree} (hnames : t.WellNamed) {root : String}
    {respectIgnore : Bool} {filter : FileFilter} {files : List String}
    (h : t.listFiles root respectIgnore filter = .ok files) {file : String} (hfile : file ∈ files) :
    filter.Lists file := by
  obtain ⟨names, content, hne, hget, -, rfl, haccepts⟩ := (mem_listFiles h).mp hfile
  exact ⟨names, hne, (areNames_append.mp (hnames.of_get? hget)).2, rfl, haccepts⟩

/-- Whether a source lists what a filter asks for: files that pass it, by their paths below the
root. -/
def FileSource.Heeds (source : FileSource) (filter : FileFilter) : Prop :=
  ∀ files, source.list filter = .ok files → ∀ file ∈ files, filter.Lists file

/-- A directory lists what a filter asks for. -/
theorem FileSource.heeds_ofTree {t : FileTree} (hnames : t.WellNamed) (root : String)
    (respectIgnore : Bool) (filter : FileFilter) :
    (FileSource.ofTree t root respectIgnore).Heeds filter :=
  fun _ hlist _ hfile => FileTree.lists_of_mem_listFiles hnames hlist hfile

end TrackedComments

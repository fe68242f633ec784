import TrackedComments.CommentTree
import TrackedComments.Proofs.Record
import TrackedComments.Proofs.StableSort

/-!
# Comment trees as sorted partitions

A tree shows each record once, below the node of its file. The nodes are in the order of names and
paths, the records of a file in the order of lines, and both orders leave little open: the nodes
depend on which records there are, and not on where they stand in the list, and so do the records of
a file unless two of them stand on the same line.

## Main results

* `FileNode.precedes_of_isBefore`: the order of the nodes of different files.
* `CommentTree.fileNodes_congr`, `CommentTree.commentsOf_congr`: the order of the records has no
  part in what is shown.
* `CommentTree.sorted_partition`: the tree as a sorted partition of its records.
-/

namespace TrackedComments

open CommentRecord

namespace FileNode

variable {caseInsensitive : Bool} {a b c : FileNode}

/-- Whether a node stands before another one: by the name, or by the name in lower case, and by the
path where this is the same. -/
def Precedes (caseInsensitive : Bool) (a b : FileNode) : Prop :=
  a.sortName caseInsensitive < b.sortName caseInsensitive ∨
    a.sortName caseInsensitive = b.sortName caseInsensitive ∧ a.path < b.path

/-- Whether the name of a node is what follows the last separator of its path, and the directory
what precedes it. -/
def SplitsPath (n : FileNode) : Prop :=
  '/' ∉ n.name.toList ∧
    (n.path = n.name ∧ n.directory = "" ∨ n.path = n.directory ++ "/" ++ n.name)

/-- The node that is made of a path splits it at its last separator. -/
theorem splitsPath_ofPath (path : String) (count : Nat) : (ofPath path count).SplitsPath := by
  have hslash : '/' ∉ (path.toList.reverse.takeWhile (· != '/')).reverse := by
    intro hmem
    have hall := List.all_eq_true.mp (List.all_takeWhile (l := path.toList.reverse))
      '/' (List.mem_reverse.mp hmem)
    simp at hall
  refine ⟨by simpa [ofPath, splitPath] using hslash, ?_⟩
  have hwhole := List.takeWhile_append_dropWhile (p := (· != '/')) (l := path.toList.reverse)
  cases hrest : path.toList.reverse.dropWhile (· != '/') with
  | nil =>
    rw [hrest, List.append_nil] at hwhole
    exact .inl ⟨by simp [ofPath, splitPath, hwhole], by simp [ofPath, splitPath, hrest]⟩
  | cons c rest =>
    have hc := List.head?_dropWhile_not (· != '/') path.toList.reverse
    rw [hrest] at hc hwhole
    obtain rfl : c = '/' := by simpa using hc
    refine .inr (String.toList_inj.mp ?_)
    have hpath : path.toList =
        (path.toList.reverse.takeWhile (· != '/') ++ '/' :: rest).reverse := by
      rw [hwhole, List.reverse_reverse]
    conv_lhs => rw [ofPath, hpath]
    simp [ofPath, splitPath, hrest]

/-- A node is before another one by its name, and by its path where the names are the same. -/
theorem isBefore_iff :
    isBefore caseInsensitive a b ↔
      a.sortName caseInsensitive < b.sortName caseInsensitive ∨
        a.sortName caseInsensitive = b.sortName caseInsensitive ∧ a.path ≤ b.path := by
  unfold isBefore
  dsimp only
  split
  · rename_i heq
    simp [heq]
  · rename_i hne
    simp [hne]

/-- The order of the nodes is transitive. -/
theorem isBefore_trans (h : isBefore caseInsensitive a b) (h' : isBefore caseInsensitive b c) :
    isBefore caseInsensitive a c := by
  rw [isBefore_iff] at h h' ⊢
  grind

/-- Of two nodes one is before the other. -/
theorem isBefore_total (a b : FileNode) :
    isBefore caseInsensitive a b || isBefore caseInsensitive b a := by
  rw [Bool.or_eq_true, isBefore_iff, isBefore_iff]
  grind

/-- The nodes of different files have one order. -/
theorem precedes_of_isBefore (h : isBefore caseInsensitive a b) (hne : a.path ≠ b.path) :
    Precedes caseInsensitive a b := by
  rcases isBefore_iff.mp h with hlt | ⟨heq, hle⟩
  · exact .inl hlt
  · exact .inr ⟨heq, Std.lt_of_le_of_ne hle hne⟩

/-- Of two nodes only one stands before the other. -/
theorem Precedes.asymm (h : Precedes caseInsensitive a b) : ¬ Precedes caseInsensitive b a := by
  unfold Precedes at h ⊢
  grind

end FileNode

namespace CommentTree

variable {t t' : CommentTree}

/-- The node of a file that the records give. -/
def nodeOf (t : CommentTree) (file : String) : FileNode :=
  .ofPath file (t.comments.countP (·.file == file))

/-- The files of the records, each once. -/
def files (t : CommentTree) : List String :=
  (t.comments.map CommentRecord.file).eraseDups

/-- The files are those that a record is in. -/
theorem mem_files {file : String} : file ∈ t.files ↔ ∃ r ∈ t.comments, r.file = file := by
  simp [files]

/-- No file is named twice. -/
theorem nodup_files (t : CommentTree) : t.files.Nodup :=
  nodup_eraseDups _

/-! ### The nodes of the files -/

/-- The nodes are those of the files. -/
theorem fileNodes_perm (t : CommentTree) : t.fileNodes.Perm (t.files.map t.nodeOf) :=
  List.mergeSort_perm _ _

/-- Every node is that of a file, and every file has one. -/
theorem mem_fileNodes {n : FileNode} : n ∈ t.fileNodes ↔ ∃ file ∈ t.files, t.nodeOf file = n := by
  rw [(fileNodes_perm t).mem_iff, List.mem_map]

/-- The paths of the nodes are the files. -/
theorem path_fileNodes_perm (t : CommentTree) : (t.fileNodes.map FileNode.path).Perm t.files := by
  have hpaths : (t.files.map t.nodeOf).map FileNode.path = t.files := by
    rw [List.map_map]
    exact List.map_id t.files
  have hperm := (fileNodes_perm t).map FileNode.path
  rwa [hpaths] at hperm

/-- No two nodes have the same path. -/
theorem nodup_path_fileNodes (t : CommentTree) : (t.fileNodes.map FileNode.path).Nodup :=
  (path_fileNodes_perm t).nodup_iff.mpr (nodup_files t)

/-- The nodes ascend. -/
theorem pairwise_fileNodes (t : CommentTree) :
    t.fileNodes.Pairwise (FileNode.Precedes t.caseInsensitive) := by
  have htrans (a b c : FileNode) (h : a.isBefore t.caseInsensitive b)
      (h' : b.isBefore t.caseInsensitive c) : a.isBefore t.caseInsensitive c :=
    FileNode.isBefore_trans h h'
  have hbefore : t.fileNodes.Pairwise fun a b => FileNode.isBefore t.caseInsensitive a b :=
    List.pairwise_mergeSort htrans FileNode.isBefore_total _
  have hpaths := nodup_path_fileNodes t
  rw [List.Nodup, List.pairwise_map] at hpaths
  exact (hbefore.and hpaths).imp fun ⟨h, hne⟩ => FileNode.precedes_of_isBefore h hne

/-- The nodes depend on which records there are, and not on their order. -/
theorem fileNodes_congr (hcase : t'.caseInsensitive = t.caseInsensitive)
    (hperm : t'.comments.Perm t.comments) : t'.fileNodes = t.fileNodes := by
  have hfiles : t'.files.Perm t.files :=
    (List.perm_ext_iff_of_nodup (nodup_files t') (nodup_files t)).mpr fun file => by
      rw [mem_files, mem_files]
      simp only [hperm.mem_iff]
  have hnode : t'.nodeOf = t.nodeOf := by
    funext file
    rw [nodeOf, nodeOf, hperm.countP_eq]
  have hnodes : t'.fileNodes.Perm t.fileNodes :=
    ((fileNodes_perm t').trans (hnode ▸ hfiles.map _)).trans (fileNodes_perm t).symm
  refine hnodes.eq_of_pairwise (fun _ _ _ _ h h' => absurd h' h.asymm) ?_ (pairwise_fileNodes t)
  exact hcase ▸ pairwise_fileNodes t'

/-! ### The records of a file -/

/-- The records of a file, sorted by line. -/
theorem sortsStably_commentsOf (t : CommentTree) (file : String) :
    SortsStably CommentRecord.line (t.commentsOf file) (t.comments.filter (·.file == file)) :=
  sortsStably_mergeSort CommentRecord.line _

/-- The node of a file counts the records of the file. -/
theorem count_nodeOf (t : CommentTree) (file : String) :
    (t.nodeOf file).count = (t.commentsOf file).length := by
  rw [(sortsStably_commentsOf t file).perm.length_eq, ← List.countP_eq_length_filter]
  rfl

/-- If no two records stand on the same line of a file, their order in the list has no part in the
order in which they are shown. -/
theorem commentsOf_congr (hid : (t.comments.map identity).Nodup)
    (hperm : t'.comments.Perm t.comments) (file : String) :
    t'.commentsOf file = t.commentsOf file := by
  have hsorted := sortsStably_commentsOf t file
  have hsorted' := sortsStably_commentsOf t' file
  have hrecords : (t'.commentsOf file).Perm (t.commentsOf file) :=
    (hsorted'.perm.trans (hperm.filter _)).trans hsorted.perm.symm
  refine hrecords.eq_of_pairwise (fun r r' hr hr' hle hge => ?_) hsorted'.ascending
    hsorted.ascending
  obtain ⟨hr, hfile⟩ := List.mem_filter.mp (hsorted.perm.mem_iff.mp (hrecords.mem_iff.mp hr))
  obtain ⟨hr', hfile'⟩ := List.mem_filter.mp (hsorted.perm.mem_iff.mp hr')
  refine eq_of_identity_eq hid hr hr' (Prod.ext ?_ (UInt32.le_antisymm hle hge))
  exact (eq_of_beq hfile).trans (eq_of_beq hfile').symm

/-- The records of all files put together are the records of the tree. -/
theorem flatMap_commentsOf_perm (t : CommentTree) :
    (t.fileNodes.flatMap fun n => t.commentsOf n.path).Perm t.comments := by
  have hsorted (files : List String) : (files.flatMap t.commentsOf).Perm
      (files.flatMap fun file => t.comments.filter (·.file == file)) := by
    induction files with
    | nil => exact .refl _
    | cons file files ih => exact (sortsStably_commentsOf t file).perm.append ih
  have hgroups := flatMap_filter_perm (nodup_files t) fun r hr => mem_files.mpr ⟨r, hr, rfl⟩
  rw [← List.flatMap_map]
  exact (((path_fileNodes_perm t).flatMap_right _).trans (hsorted t.files)).trans hgroups

/-! ### The tree -/

/-- A tree is a sorted partition of its records. There is one node for each file, in ascending order
of the names and then of the paths. Each node is named after its path, counts the records of its
file, and has these below it in the order of their lines. All of them together are the records of
the tree. The order of the records has no part in this, unless two of them have the same
identity. -/
theorem sorted_partition (t : CommentTree) :
    ((t.fileNodes.map FileNode.path).Nodup ∧
      ∀ file, file ∈ t.fileNodes.map FileNode.path ↔ ∃ r ∈ t.comments, r.file = file) ∧
    t.fileNodes.Pairwise (FileNode.Precedes t.caseInsensitive) ∧
    (∀ n ∈ t.fileNodes, n.SplitsPath ∧ n.count = (t.commentsOf n.path).length ∧
      SortsStably CommentRecord.line (t.commentsOf n.path)
        (t.comments.filter (·.file == n.path))) ∧
    (t.fileNodes.flatMap fun n => t.commentsOf n.path).Perm t.comments ∧
    ∀ t' : CommentTree, t'.caseInsensitive = t.caseInsensitive → t'.comments.Perm t.comments →
      t'.fileNodes = t.fileNodes ∧
        ((t.comments.map identity).Nodup → ∀ file, t'.commentsOf file = t.commentsOf file) := by
  refine ⟨⟨nodup_path_fileNodes t, fun file => ?_⟩, pairwise_fileNodes t, fun n hn => ?_,
    flatMap_commentsOf_perm t, fun t' hcase hperm => ⟨fileNodes_congr hcase hperm, fun hid file =>
      commentsOf_congr hid hperm file⟩⟩
  · rw [(path_fileNodes_perm t).mem_iff, mem_files]
  · obtain ⟨file, -, rfl⟩ := mem_fileNodes.mp hn
    exact ⟨FileNode.splitsPath_ofPath _ _, count_nodeOf t file, sortsStably_commentsOf t file⟩

/-- Records of files with the same name up to case in two directories. -/
def indexRecords : List CommentRecord :=
  [⟨"web/index.ts", 2, "// ERROR: b", "b", .empty, none⟩,
    ⟨"api/Index.ts", 1, "// ERROR: c", "c", .empty, some 7⟩,
    ⟨"web/index.ts", 1, "// ERROR: a", "a", .empty, none⟩,
    ⟨"api/index.ts", 1, "// ERROR: d", "d", .empty, none⟩]

/-- The tree of these records in either order. -/
theorem sorted_partition_indexRecords :
    indexRecords.reverse.Perm indexRecords ∧ (indexRecords.map identity).Nodup ∧
      (∃ n ∈ fileNodes ⟨indexRecords, true, 0⟩, n.path = "web/index.ts" ∧ n.count = 2) ∧
      fileNodes ⟨indexRecords.reverse, true, 5⟩ = fileNodes ⟨indexRecords, true, 0⟩ ∧
      commentsOf ⟨indexRecords.reverse, true, 5⟩ "web/index.ts" =
        commentsOf ⟨indexRecords, true, 0⟩ "web/index.ts" := by
  obtain ⟨⟨-, hfiles⟩, -, hnodes, -, hcongr⟩ := sorted_partition ⟨indexRecords, true, 0⟩
  have hid : (indexRecords.map identity).Nodup := by decide
  have hperm : indexRecords.reverse.Perm indexRecords := List.reverse_perm _
  obtain ⟨hsame, hchildren⟩ := hcongr ⟨indexRecords.reverse, true, 5⟩ rfl hperm
  obtain ⟨n, hn, hpath⟩ := List.mem_map.mp
    ((hfiles "web/index.ts").mpr ⟨_, List.mem_cons_self, rfl⟩)
  obtain ⟨-, hcount, hrecords⟩ := hnodes n hn
  refine ⟨hperm, hid, ⟨n, hn, hpath, ?_⟩, hsame, hchildren hid "web/index.ts"⟩
  rw [hcount, hrecords.perm.length_eq, hpath]
  decide

end CommentTree

end TrackedComments

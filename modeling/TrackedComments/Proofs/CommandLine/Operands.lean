import TrackedComments.CommandLine.Run
import TrackedComments.Proofs.FileTree.Components
import TrackedComments.Proofs.Text.Printed

/-!
# Operands that name a file

A file is named on the command line as people write paths: with backslashes between the names, or
with `./` in front. What is looked for is an identity, with slashes and without `./`. The identity
of a file below a root never begins with `./`, but a name in it may hold a backslash, and then the
identity cannot be given.

## Main results

* `normalizeFile_eq_self_iff`: which texts are taken as they are.
* `normalizeFile_eq_self_iff_of_relativeTo?`: which identities are taken as they are.
* `ofArguments_createIssue`: how an operand is given that begins with a hyphen.
-/

namespace TrackedComments.CommandLine

variable {cs root path id : List Char}

/-! ### What an operand names -/

/-- The characters of an operand with slashes for backslashes. -/
def withSlashes (cs : List Char) : List Char :=
  cs.map fun c => if c = '\\' then '/' else c

/-- No backslash is left. -/
theorem not_mem_withSlashes (cs : List Char) : '\\' ∉ withSlashes cs := by
  intro h
  obtain ⟨c, -, hc⟩ := List.mem_map.mp h
  split at hc
  · simp at hc
  · exact absurd hc ‹_›

/-- A text without backslashes stays as it is. -/
theorem withSlashes_of_not_mem (h : '\\' ∉ cs) : withSlashes cs = cs := by
  have hkeep : ∀ c ∈ cs, (if c = '\\' then '/' else c) = c := by
    intro c hc
    exact if_neg fun (heq : c = '\\') => h (heq ▸ hc)
  exact (List.map_congr_left hkeep).trans (List.map_id cs)

/-- What is left after the current directory is dropped is an end of the text. -/
theorem dropCurrent_suffix (cs : List Char) : dropCurrent cs <:+ cs := by
  fun_induction dropCurrent cs with
  | case1 rest ih => exact ih.trans ⟨['.', '/'], rfl⟩
  | case2 => exact List.suffix_rfl

/-- Nothing is dropped just when the text does not begin with the current directory. -/
theorem dropCurrent_eq_self_iff : dropCurrent cs = cs ↔ ¬ ['.', '/'] <+: cs := by
  fun_induction dropCurrent cs with
  | case1 rest =>
    refine iff_of_false (fun heq => ?_) (not_not_intro ⟨rest, rfl⟩)
    have hlength := (dropCurrent_suffix rest).length_le
    rw [heq] at hlength
    simp only [List.length_cons] at hlength
    omega
  | case2 cs hnot =>
    refine iff_of_true rfl ?_
    rintro ⟨rest, rfl⟩
    exact hnot rest rfl

/-- A file is normalized by turning backslashes and then dropping the current directory. -/
theorem toList_normalizeFile (file : String) :
    (normalizeFile file).toList = dropCurrent (withSlashes file.toList) :=
  String.toList_ofList

/-- No backslash is left. -/
theorem not_mem_normalizeFile (file : String) : '\\' ∉ (normalizeFile file).toList := by
  rw [toList_normalizeFile]
  exact fun h => not_mem_withSlashes _ ((dropCurrent_suffix _).subset h)

/-- A text is taken as it is if it holds no backslash and does not begin with `./`. -/
theorem normalizeFile_eq_self_iff {file : String} :
    normalizeFile file = file ↔ '\\' ∉ file.toList ∧ ¬ ['.', '/'] <+: file.toList := by
  constructor
  · intro heq
    have hslash : '\\' ∉ file.toList := heq ▸ not_mem_normalizeFile file
    refine ⟨hslash, dropCurrent_eq_self_iff.mp ?_⟩
    rw [← String.toList_inj, toList_normalizeFile, withSlashes_of_not_mem hslash] at heq
    exact heq
  · rintro ⟨hslash, hcurrent⟩
    rw [← String.toList_inj, toList_normalizeFile, withSlashes_of_not_mem hslash]
    exact dropCurrent_eq_self_iff.mpr hcurrent

/-! ### Identities -/

/-- What begins with `./` starts with the current directory. -/
theorem start?_of_prefix (h : ['.', '/'] <+: path) : Path.start? path = some .current := by
  obtain ⟨rest, rfl⟩ := h
  rfl

/-- What is made of steps does not begin with `./`. -/
theorem not_prefix_of_isStep {steps : List (List Char)} (h : ∀ step ∈ steps, IsStep step) :
    ¬ ['.', '/'] <+: ['/'].intercalate steps := by
  intro hcurrent
  have hstart := start?_of_prefix hcurrent
  rw [Path.start?_intercalate h] at hstart
  simp at hstart

/-- The identity of a file below a root does not begin with `./`. -/
theorem not_prefix_of_relativeTo? (hroot : root ≠ []) (h : Path.relativeTo? root path = some id) :
    ¬ ['.', '/'] <+: id := by
  obtain ⟨rest, -, hpath, rfl⟩ := Path.relativeTo?_eq_some_iff.mp h
  obtain ⟨steps, hsteps, rfl⟩ :=
    Path.exists_steps_of_components (Path.components_ne_nil hroot) hpath
  rw [Path.map_toChars_name]
  exact not_prefix_of_isStep hsteps

/-- The identity of a file is taken as it is exactly if it holds no backslash. -/
theorem normalizeFile_eq_self_iff_of_relativeTo? {file : String} (hroot : root ≠ [])
    (h : Path.relativeTo? root path = some file.toList) :
    normalizeFile file = file ↔ '\\' ∉ file.toList := by
  rw [normalizeFile_eq_self_iff, and_iff_left (not_prefix_of_relativeTo? hroot h)]

/-- A path of proper names without backslashes is normal. -/
theorem normalizeFile_pathOf {names : Location} (hnames : AreNames names)
    (hslash : '\\' ∉ (pathOf names).toList) : normalizeFile (pathOf names) = pathOf names := by
  refine normalizeFile_eq_self_iff.mpr ⟨hslash, ?_⟩
  rw [toList_pathOf]
  exact not_prefix_of_isStep hnames.isStep

/-! ### Operands as arguments -/

/-- A line number is read as it is written. -/
theorem readLine?_toString (line : UInt32) : readLine? (toString line.toNat) = some line := by
  have hchars : (toString line.toNat).toList = Nat.toDigits 10 line.toNat := Nat.toList_repr
  have hdigits : ∀ c ∈ Nat.toDigits 10 line.toNat, c.isDigit := fun _ => isDigit_of_mem_toDigits
  have hvalue : Nat.ofDigitChars 10 (Nat.toDigits 10 line.toNat) 0 = line.toNat :=
    Nat.ofDigitChars_ten_toDigits
  obtain ⟨c, rest, heq⟩ := List.exists_cons_of_ne_nil (toDigits_ne_nil line.toNat)
  rw [heq] at hchars hdigits hvalue
  have hplus : c ≠ '+' := by
    rintro rfl
    exact absurd (hdigits '+' (by simp)) (by decide)
  have hminus : c ≠ '-' := by
    rintro rfl
    exact absurd (hdigits '-' (by simp)) (by decide)
  have hall : (c :: rest).all Char.isDigit := List.all_eq_true.mpr hdigits
  unfold readLine?
  dsimp only
  rw [hchars]
  split
  · rename_i h
    exact absurd (List.cons.inj h).1 hplus
  · rename_i h
    exact absurd (List.cons.inj h).1 hminus
  · simp [hall, hvalue, line.toNat_lt]

/-- After `--` every text is taken for the file, also one that begins like an option. -/
theorem ofArguments_createIssue (file : String) (line : UInt32) :
    Invocation.ofArguments ["create-issue", "--", file, toString line.toNat] =
      .ok { command := .createIssue file line false } := by
  have hcommand : LevelName.program.below? "create-issue" = some .createIssue := by decide
  have hnone : LevelName.createIssue.below? "--" = none := by decide
  have hdashes : Level.readArgument { name := .createIssue } "--" =
      .ok ({ name := .createIssue }, .operand) := by rfl
  have hfile : Level.addOperand { name := .createIssue } file =
      .ok { name := .createIssue, file := some file } := rfl
  have hline : Level.addOperand { name := .createIssue, file := some file }
      (toString line.toNat) =
        .ok { name := .createIssue, file := some file, line := some line } := by
    simp only [Level.addOperand, LevelName.takesPlace, readLine?_toString]
  have hlevels : readLevels { name := .createIssue } .anything ["--", file, toString line.toNat] =
      .ok [{ name := .createIssue, file := some file, line := some line }] := by
    simp only [readLevels, hnone, hdashes, hfile, hline]
    rfl
  unfold Invocation.ofArguments
  rw [readLevels, hcommand]
  simp only [hlevels]
  rfl

end TrackedComments.CommandLine

import TrackedComments.Proofs.Glob.Language
import TrackedComments.Proofs.Text.Bytes
import TrackedComments.Source.Filter
import TrackedComments.Text.Split

/-!
# The standard filter

The filter that is used unless another one is configured asks for files with one of some extensions
that are not inside of a directory with one of some names. Its globs speak of bytes and let an
asterisk run across separators; in terms of the text of a path they ask how it ends, and what stands
between its separators before the last one.

## Main results

* `Glob.accepts_withExtension`: the glob for files with one of some extensions.
* `Glob.accepts_insideDirectory`: the glob for files inside of directories with one of some names.
* `FileFilter.accepts_standard`: the paths that pass the standard filter.
-/

namespace TrackedComments

namespace Glob

/-- The glob for a text. -/
def spelled (text : String) : Glob :=
  sequence ((utf8Bytes text.toList).map fun b => .token (.byte b))

/-- The glob for files with one of some extensions, anywhere. -/
def withExtension (extensions : List String) : Glob :=
  sequence [.token .leadingDirectories, .token .star, .token (.byte PathGlob.dot),
    choice (extensions.map spelled)]

/-- The glob for what is inside of directories with one of some names, anywhere. -/
def insideDirectory (names : List String) : Glob :=
  sequence [.token .leadingDirectories, choice (names.map spelled), .token .everythingBelow]

variable {separated : Bool} {piece : List UInt8} {cs : List Char}

/-- A choice of spelled texts stands for these texts. -/
theorem matches_choice_spelled {texts : List String} (hne : texts ≠ []) :
    (choice (texts.map spelled)).Matches separated piece ↔
      ∃ text ∈ texts, piece = utf8Bytes text.toList := by
  rw [matches_choice (by simpa using hne)]
  simp [spelled, matches_bytes]

/-- The files with one of some extensions. -/
theorem accepts_withExtension {extensions : List String} (hne : extensions ≠ []) :
    (withExtension extensions).accepts false (utf8Bytes cs) ↔
      ∃ extension ∈ extensions, '.' :: extension.toList <:+ cs := by
  have hends (extension : String) : '.' :: extension.toList <:+ cs ↔
      PathGlob.dot :: utf8Bytes extension.toList <:+ utf8Bytes cs :=
    (utf8Bytes_cons_suffix_iff rfl (by decide)).symm
  rw [accepts_iff_matches, withExtension]
  simp only [matches_sequence_cons, sequence_singleton, matches_choice_spelled hne, Matches,
    GlobToken.Matches, hends]
  constructor
  · rintro ⟨directories, _, hcs, -, stem, _, rfl, -, _, _, rfl, rfl, extension, hmem, rfl⟩
    exact ⟨extension, hmem, directories ++ stem, by rw [hcs, List.append_assoc]; rfl⟩
  · rintro ⟨extension, hmem, stem, hcs⟩
    exact ⟨[], _, hcs.symm, .inl rfl, stem, _, rfl, by simp, [PathGlob.dot], _, rfl, rfl,
      extension, hmem, rfl⟩

/-- The files inside of directories with one of some names. -/
theorem accepts_insideDirectory {names : List String} (hne : names ≠ [])
    (hslash : ∀ name ∈ names, '/' ∉ name.toList) :
    (insideDirectory names).accepts false (utf8Bytes cs) ↔
      ∃ name ∈ names, name.toList ∈ (Chars.splitAtChar '/' cs).dropLast := by
  have hcut {cs : List Char} {front back : List UInt8} (h : utf8Bytes cs = front ++ slash :: back) :
      ∃ before after, cs = before ++ '/' :: after ∧ utf8Bytes before = front ∧
        utf8Bytes after = back :=
    exists_of_utf8Bytes_eq rfl (by decide) h
  rw [accepts_iff_matches, insideDirectory]
  simp only [matches_sequence_cons, sequence_singleton, matches_choice_spelled hne, Matches,
    GlobToken.Matches, Chars.mem_dropLast_splitAtChar_iff]
  constructor
  · rintro ⟨lead, _, hcs, hlead, _, _, rfl, ⟨name, hmem, rfl⟩, below, rfl⟩
    refine ⟨name, hmem, hslash name hmem, ?_⟩
    rcases hlead with rfl | ⟨directories, rfl⟩
    · obtain ⟨before, after, rfl, hbefore, -⟩ := hcut hcs
      obtain rfl := utf8Bytes_injective hbefore
      exact ⟨[], after, rfl, .inl rfl⟩
    · rw [List.append_assoc] at hcs
      obtain ⟨init, rest, rfl, -, hrest⟩ := hcut hcs
      obtain ⟨before, after, rfl, hbefore, -⟩ := hcut hrest
      obtain rfl := utf8Bytes_injective hbefore
      exact ⟨init ++ ['/'], after, by simp, .inr ⟨init, rfl⟩⟩
  · rintro ⟨name, hmem, -, before, after, rfl, hbefore⟩
    rw [utf8Bytes_append, utf8Bytes_append, utf8Bytes_cons]
    refine ⟨_, _, rfl, ?_, _, _, rfl, ⟨name, hmem, rfl⟩, utf8Bytes after, rfl⟩
    rcases hbefore with rfl | ⟨init, rfl⟩
    · exact .inl rfl
    · exact .inr ⟨utf8Bytes init, utf8Bytes_append init ['/']⟩

end Glob

namespace FileFilter

/-- The filter for files with one of some extensions that are not inside of directories with one of
some names. -/
def forSources (extensions skipped : List String) : FileFilter :=
  ⟨some ⟨.withExtension extensions, false, false⟩, some ⟨.insideDirectory skipped, false, false⟩⟩

/-- The paths that pass a filter for extensions and against directories. -/
theorem accepts_forSources {extensions skipped : List String} (hextensions : extensions ≠ [])
    (hskipped : skipped ≠ []) (hslash : ∀ name ∈ skipped, '/' ∉ name.toList) (path : String) :
    (forSources extensions skipped).accepts path ↔
      (∃ extension ∈ extensions, '.' :: extension.toList <:+ path.toList) ∧
        ∀ name ∈ skipped, name.toList ∉ (Chars.splitAtChar '/' path.toList).dropLast := by
  have hskip : (Glob.insideDirectory skipped).accepts false (utf8Bytes path.toList) = false ↔
      ∀ name ∈ skipped, name.toList ∉ (Chars.splitAtChar '/' path.toList).dropLast := by
    rw [← Bool.not_eq_true, Glob.accepts_insideDirectory hskipped hslash]
    simp only [not_exists, not_and]
  simp [forSources, accepts, PathGlob.isMatch, Glob.accepts_withExtension hextensions, hskip]

/-- The extensions that the standard filter asks for. -/
def sourceExtensions : List String :=
  ["ts", "js", "tsx", "jsx", "py", "java", "cs", "cpp", "c", "go", "rb", "php", "rs"]

/-- The names of the directories that the standard filter passes over. -/
def skippedDirectories : List String :=
  ["node_modules", "target", "vendor", ".git"]

/-- The standard filter is the one for sources in directories that are not skipped. -/
theorem standard_eq_forSources : standard = forSources sourceExtensions skippedDirectories := by
  rfl

/-- **The standard filter.** A path passes if it ends in a dot and one of the extensions and no
part of it but the last is the name of a directory to pass over. -/
theorem accepts_standard (path : String) :
    standard.accepts path ↔
      (∃ extension ∈ sourceExtensions, '.' :: extension.toList <:+ path.toList) ∧
        ∀ name ∈ skippedDirectories,
          name.toList ∉ (Chars.splitAtChar '/' path.toList).dropLast := by
  rw [standard_eq_forSources]
  exact accepts_forSources (by decide) (by decide) (by decide) path

end FileFilter

end TrackedComments

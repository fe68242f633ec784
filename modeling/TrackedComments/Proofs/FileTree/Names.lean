import Mathlib.Tactic.Common
import TrackedComments.FileTree.Path

/-!
# Paths made of names

A file below a root is written as the names that lead to it with `/` between them. Such a path can
be taken apart again, and put after a root it names the parts of the root and then those names.

## Main results

* `Path.splitAtChar_intercalate`: a path made of names has exactly those names as its parts.
* `Path.exists_splitAtChar_join`: the parts of a file below a root are the parts of the root,
  perhaps without an empty last one, and the parts of the file.
* `Path.withFileName_join`: the path of a file beside another one below a root differs from it in
  the last name alone.
-/

namespace TrackedComments

/-- Whether a text can be the name of a file or directory, and is none of the parts of a path with a
meaning of their own. -/
structure IsName (part : List Char) : Prop where
  ne_nil : part ≠ []
  ne_current : part ≠ ['.']
  ne_parent : part ≠ ['.', '.']
  not_mem_slash : '/' ∉ part

/-- Whether a part of a path says something: names do, and `..` does. -/
structure IsStep (part : List Char) : Prop where
  ne_nil : part ≠ []
  ne_current : part ≠ ['.']
  not_mem_slash : '/' ∉ part

/-- A proper name is a step. -/
theorem IsName.isStep {part : List Char} (h : IsName part) : IsStep part :=
  ⟨h.ne_nil, h.ne_current, h.not_mem_slash⟩

instance (part : List Char) : Decidable (IsStep part) :=
  decidable_of_iff (part ≠ [] ∧ part ≠ ['.'] ∧ '/' ∉ part)
    ⟨fun ⟨h₁, h₂, h₃⟩ => ⟨h₁, h₂, h₃⟩, fun h => ⟨h.1, h.2, h.3⟩⟩

instance (part : List Char) : Decidable (IsName part) :=
  decidable_of_iff (part ≠ [] ∧ part ≠ ['.'] ∧ part ≠ ['.', '.'] ∧ '/' ∉ part)
    ⟨fun ⟨h₁, h₂, h₃, h₄⟩ => ⟨h₁, h₂, h₃, h₄⟩, fun h => ⟨h.1, h.2, h.3, h.4⟩⟩

namespace Path

open Chars

/-- A path made of names has exactly those names as its parts. -/
theorem splitAtChar_intercalate {names : List (List Char)} (hne : names ≠ [])
    (h : ∀ n ∈ names, '/' ∉ n) : splitAtChar '/' (['/'].intercalate names) = names := by
  induction names with
  | nil => exact absurd rfl hne
  | cons n names ih =>
    have hn : '/' ∉ n := h n List.mem_cons_self
    cases names with
    | nil => rw [List.intercalate_singleton, splitAtChar_of_not_mem hn]
    | cons m names =>
      rw [List.intercalate_cons_cons, List.append_assoc, List.singleton_append,
        splitAtChar_append_cons, splitAtChar_of_not_mem hn,
        ih (List.cons_ne_nil m names) fun k hk => h k (List.mem_cons_of_mem _ hk)]
      rfl

/-- A last name is written after the others and a slash. -/
theorem intercalate_concat {names : List (List Char)} (hne : names ≠ []) (last : List Char) :
    ['/'].intercalate (names ++ [last]) = ['/'].intercalate names ++ '/' :: last := by
  rw [intercalate_append '/' hne (List.cons_ne_nil last []), List.intercalate_singleton]

/-- Paths made of names are equal only if the names are. -/
theorem intercalate_inj {names others : List (List Char)} (hnames : ∀ n ∈ names, IsName n)
    (hothers : ∀ n ∈ others, IsName n) (hne : names ≠ []) (hne' : others ≠ [])
    (h : ['/'].intercalate names = ['/'].intercalate others) : names = others := by
  rw [← splitAtChar_intercalate hne fun n hn => (hnames n hn).not_mem_slash, h,
    splitAtChar_intercalate hne' fun n hn => (hothers n hn).not_mem_slash]

/-- A path made of steps does not begin with a separator. -/
theorem head?_intercalate_ne {steps : List (List Char)} (h : ∀ step ∈ steps, IsStep step) :
    (['/'].intercalate steps).head? ≠ some '/' := by
  cases steps with
  | nil => simp
  | cons step rest =>
    have hstep := h step List.mem_cons_self
    obtain ⟨c, cs, rfl⟩ := List.exists_cons_of_ne_nil hstep.ne_nil
    have hc : c ≠ '/' := fun hc => hstep.not_mem_slash (hc ▸ List.mem_cons_self)
    cases rest <;> simp [List.intercalate_cons_cons, hc]

theorem join_nil (file : List Char) : join [] file = file := by
  unfold join
  split <;> rfl

/-- The path of a file below a root, unless the file is an absolute path. -/
theorem join_of_head?_ne {file : List Char} (h : file.head? ≠ some '/') (root : List Char) :
    join root file =
      if root.isEmpty || root.getLast? == some '/' then root ++ file else root ++ '/' :: file := by
  unfold join
  split
  · exact absurd rfl h
  · rfl

/-- The characters of the root are in the path of a file below it. -/
theorem mem_join_of_mem {root file : List Char} {c : Char} (hfile : file.head? ≠ some '/')
    (h : c ∈ root) : c ∈ join root file := by
  rw [join_of_head?_ne hfile]
  split <;> exact List.mem_append_left _ h

/-- The part of a joined path that stands before the file: nothing, or a text that ends in a
separator. -/
theorem exists_join_eq_append (root : List Char) :
    ∃ before : List Char, (before = [] ∨ ∃ more, before = more ++ ['/']) ∧
      ∀ file : List Char, file.head? ≠ some '/' → join root file = before ++ file := by
  by_cases hempty : root = []
  · subst hempty
    exact ⟨[], .inl rfl, fun file hfile => by simp [join_of_head?_ne hfile]⟩
  · obtain ⟨init, last, hroot⟩ := (List.eq_nil_or_concat root).resolve_left hempty
    obtain rfl : root = init ++ [last] := by rw [hroot, List.concat_eq_append]
    by_cases hlast : last = '/'
    · subst hlast
      exact ⟨init ++ ['/'], .inr ⟨init, rfl⟩, fun file hfile => by simp [join_of_head?_ne hfile]⟩
    · exact ⟨init ++ [last] ++ ['/'], .inr ⟨_, rfl⟩, fun file hfile => by
        simp [join_of_head?_ne hfile, hlast]⟩

/-- The parts of a file below a root are those of the root, perhaps without an empty last one, and
those of the file. -/
theorem exists_splitAtChar_join (root : List Char) :
    ∃ parts : List (List Char),
      (splitAtChar '/' root = parts ∨ splitAtChar '/' root = parts ++ [[]]) ∧
      ∀ file : List Char, file.head? ≠ some '/' →
        splitAtChar '/' (join root file) = parts ++ splitAtChar '/' file := by
  by_cases hempty : root = []
  · subst hempty
    exact ⟨[], .inr rfl, fun file hfile => by simp [join_of_head?_ne hfile]⟩
  · obtain ⟨init, last, hroot⟩ := (List.eq_nil_or_concat root).resolve_left hempty
    obtain rfl : root = init ++ [last] := by rw [hroot, List.concat_eq_append]
    by_cases hlast : last = '/'
    · subst hlast
      refine ⟨splitAtChar '/' init, .inr (splitAtChar_append_cons '/' init []),
        fun file hfile => ?_⟩
      rw [join_of_head?_ne hfile]
      simp [splitAtChar_append_cons]
    · refine ⟨splitAtChar '/' (init ++ [last]), .inl rfl, fun file hfile => ?_⟩
      rw [join_of_head?_ne hfile, if_neg (by simp [hlast]), splitAtChar_append_cons]

/-! ### Files beside each other -/

/-- A path is cut before its last part. -/
theorem exists_eq_append_last (path : List Char) :
    ∃ before last : List Char, path = before ++ last ∧
      (before = [] ∨ ∃ more, before = more ++ ['/']) ∧ '/' ∉ last := by
  by_cases hslash : '/' ∈ path
  · obtain ⟨last, more, hpath, hlast⟩ :=
      List.eq_append_cons_of_mem (List.mem_reverse.mpr hslash)
    refine ⟨more.reverse ++ ['/'], last.reverse, ?_, .inr ⟨_, rfl⟩, by simpa using hlast⟩
    rw [← List.reverse_reverse path, hpath]
    simp
  · exact ⟨[], path, rfl, .inl rfl, hslash⟩

/-- What stands before the last part of a path says nothing about that part. -/
theorem exists_splitAtChar_append {before : List Char}
    (hbefore : before = [] ∨ ∃ more, before = more ++ ['/']) :
    ∃ parts : List (List Char), ∀ last : List Char, '/' ∉ last →
      splitAtChar '/' (before ++ last) = parts ++ [last] := by
  rcases hbefore with rfl | ⟨more, rfl⟩
  · exact ⟨[], fun last hlast => splitAtChar_of_not_mem hlast⟩
  · refine ⟨splitAtChar '/' more, fun last hlast => ?_⟩
    rw [List.append_assoc, List.singleton_append, splitAtChar_append_cons,
      splitAtChar_of_not_mem hlast]

/-- A text that ends in a name has that name as its file name. -/
theorem fileName?_append {before last : List Char}
    (hbefore : before = [] ∨ ∃ more, before = more ++ ['/']) (hlast : IsName last) :
    fileName? (before ++ last) = some last := by
  obtain ⟨parts, hparts⟩ := exists_splitAtChar_append hbefore
  have hparts := hparts last hlast.not_mem_slash
  have hnames : ∃ rest, names (before ++ last) = rest ++ [last] := by
    refine ⟨parts.filter fun part => !(part.isEmpty || part == ['.']), ?_⟩
    simp [names, hparts, hlast.ne_nil, hlast.ne_current]
  obtain ⟨rest, hrest⟩ := hnames
  have hcomponents : (components (before ++ last)).getLast? = some (.name last) := by
    unfold components
    split <;> simp [hrest, List.getLast?_cons]
  simp [fileName?, hcomponents, hlast.ne_parent]

/-- The path of a file beside another one differs from it in the last name alone. -/
theorem withFileName_append {before last : List Char}
    (hbefore : before = [] ∨ ∃ more, before = more ++ ['/']) (hlast : IsName last)
    (name : List Char) : withFileName (before ++ last) name = before ++ name := by
  have hslash : ∀ c ∈ last.reverse, c ≠ '/' := by
    rintro c hc rfl
    exact hlast.not_mem_slash (List.mem_reverse.mp hc)
  -- the name is not empty, so the path has no separator at its end
  have htrim : ((before ++ last).reverse.dropWhile (· == '/')).reverse = before ++ last := by
    obtain ⟨c, cs, hcs⟩ :=
      List.exists_cons_of_ne_nil (by simpa using hlast.ne_nil : last.reverse ≠ [])
    have hc : c ≠ '/' := hslash c (hcs ▸ List.mem_cons_self)
    simp only [List.reverse_append, hcs, List.cons_append]
    rw [List.dropWhile_cons_of_neg (by simpa using hc), ← List.cons_append, ← hcs,
      ← List.reverse_append, List.reverse_reverse]
  have hdrop : ((before ++ last).reverse.dropWhile (· != '/')).reverse = before := by
    rw [List.reverse_append, List.dropWhile_append_of_pos (by simpa using hslash)]
    rcases hbefore with rfl | ⟨more, rfl⟩ <;> simp
  rw [withFileName, fileName?_append hbefore hlast]
  simp only [htrim, hdrop]

/-- The path of a file below a root, as what stands before its last name and that name. -/
theorem exists_join_eq_append_last (root : List Char) {init : List (List Char)}
    (hinit : ∀ n ∈ init, IsName n) :
    ∃ before : List Char, (before = [] ∨ ∃ more, before = more ++ ['/']) ∧
      ∀ last, IsName last → join root (['/'].intercalate (init ++ [last])) = before ++ last := by
  obtain ⟨before, hbefore, hjoin⟩ := exists_join_eq_append root
  have hnames {last : List Char} (hlast : IsName last) : ∀ n ∈ init ++ [last], IsName n := by
    simpa [or_imp, forall_and] using ⟨hinit, hlast⟩
  by_cases hne : init = []
  · subst hne
    refine ⟨before, hbefore, fun last hlast => ?_⟩
    rw [hjoin _ (head?_intercalate_ne fun n hn => (hnames hlast n hn).isStep)]
    simp
  · refine ⟨before ++ ['/'].intercalate init ++ ['/'], .inr ⟨_, rfl⟩, fun last hlast => ?_⟩
    rw [hjoin _ (head?_intercalate_ne fun n hn => (hnames hlast n hn).isStep),
      intercalate_concat hne]
    simp

/-- The path of a file beside another one below a root, the names that lead to both being the same
up to the last one. -/
theorem withFileName_join (root : List Char) {init : List (List Char)} {last name : List Char}
    (hinit : ∀ n ∈ init, IsName n) (hlast : IsName last) (hname : IsName name) :
    withFileName (join root (['/'].intercalate (init ++ [last]))) name =
      join root (['/'].intercalate (init ++ [name])) := by
  obtain ⟨before, hbefore, hjoin⟩ := exists_join_eq_append_last root hinit
  rw [hjoin last hlast, hjoin name hname, withFileName_append hbefore hlast]

/-- The file name of a path of proper names below a root is the last of them. -/
theorem fileName?_join (root : List Char) {init : List (List Char)} {last : List Char}
    (hinit : ∀ n ∈ init, IsName n) (hlast : IsName last) :
    fileName? (join root (['/'].intercalate (init ++ [last]))) = some last := by
  obtain ⟨before, hbefore, hjoin⟩ := exists_join_eq_append_last root hinit
  rw [hjoin last hlast, fileName?_append hbefore hlast]

end Path

end TrackedComments

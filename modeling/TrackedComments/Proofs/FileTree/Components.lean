import Mathlib.Data.List.Basic
import TrackedComments.Proofs.FileTree.Walk

/-!
# Components of paths

A path is taken apart into what it starts with, if that is no name, and its steps. Joining appends
the steps of the file to the components of the root, whatever spelling the root has. So the identity
of a file below a root is made of the components that follow those of the root, and joining it to
the root gives a path with the components of the file, although perhaps not the same path.

## Main results

* `Path.components_join`: the components of a joined path.
* `Path.components_intercalate`: the components of a path, written with separators between them,
  are read back.
* `Path.relativeTo?_join`, `Path.components_join_of_relativeTo?`: identities and joined paths are
  inverse to each other.
* `Path.location_eq_of_components_eq`: paths with the same components lead to one location.
-/

namespace TrackedComments.Path

open Chars

variable {root path file id : List Char} {steps : List (List Char)}

/-! ### Steps -/

/-- The parts of a path that say something. -/
def stepsOf (parts : List (List Char)) : List (List Char) :=
  parts.filter fun part => !(part.isEmpty || part == ['.'])

/-- A part is a step if it is neither empty nor a single dot. -/
theorem stepsOf_cons_of_pos {part : List Char} (h : ¬ (part = [] ∨ part = ['.']))
    (rest : List (List Char)) : stepsOf (part :: rest) = part :: stepsOf rest :=
  List.filter_cons_of_pos (by simpa using h)

/-- An empty part and a single dot are no steps. -/
theorem stepsOf_cons_of_neg {part : List Char} (h : part = [] ∨ part = ['.'])
    (rest : List (List Char)) : stepsOf (part :: rest) = stepsOf rest :=
  List.filter_cons_of_neg (by simpa [or_iff_not_imp_left] using h)

@[simp] theorem names_nil : names [] = [] := rfl

/-- A path has the names before a slash and then those after it. -/
theorem names_append_cons (before after : List Char) :
    names (before ++ '/' :: after) = names before ++ names after := by
  rw [names, splitAtChar_append_cons, List.filter_append]
  rfl

/-- The names of a path are steps. -/
theorem isStep_of_mem_names {step : List Char} (h : step ∈ names path) : IsStep step := by
  obtain ⟨hmem, hpart⟩ := List.mem_filter.mp h
  simp only [Bool.not_eq_true', Bool.or_eq_false_iff, List.isEmpty_eq_false_iff,
    beq_eq_false_iff_ne] at hpart
  exact ⟨hpart.1, hpart.2, not_mem_of_mem_splitAtChar hmem⟩

/-- A step is the only name of itself. -/
theorem names_of_isStep {step : List Char} (h : IsStep step) : names step = [step] := by
  rw [names, splitAtChar_of_not_mem h.not_mem_slash]
  simp [h.ne_nil, h.ne_current]

/-- The steps of a path made of steps. -/
theorem names_intercalate (h : ∀ step ∈ steps, IsStep step) :
    names (['/'].intercalate steps) = steps := by
  induction steps with
  | nil => rfl
  | cons step steps ih =>
    have hstep := names_of_isStep (h step List.mem_cons_self)
    cases steps with
    | nil => rw [List.intercalate_singleton, hstep]
    | cons next rest =>
      rw [List.intercalate_cons_cons, List.append_assoc, List.singleton_append, names_append_cons,
        hstep, ih fun s hs => h s (List.mem_cons_of_mem _ hs), List.singleton_append]

/-- A character other than the separator and the dot is in a path if it is in one of its steps. -/
theorem mem_iff_exists_mem_names {c : Char} (hslash : c ≠ '/') (hdot : c ≠ '.') :
    c ∈ path ↔ ∃ step ∈ names path, c ∈ step := by
  rw [mem_iff_exists_mem_splitAtChar hslash]
  constructor
  · rintro ⟨part, hpart, hc⟩
    refine ⟨part, List.mem_filter.mpr ⟨hpart, ?_⟩, hc⟩
    have hne : part ≠ [] := List.ne_nil_of_mem hc
    have hcurrent : part ≠ ['.'] := by
      rintro rfl
      exact hdot (List.mem_singleton.mp hc)
    simp [hne, hcurrent]
  · rintro ⟨step, hstep, hc⟩
    exact ⟨step, (List.mem_filter.mp hstep).1, hc⟩

/-- Steps make a path that is not empty. -/
theorem intercalate_ne_nil (h : ∀ step ∈ steps, IsStep step) (hne : steps ≠ []) :
    ['/'].intercalate steps ≠ [] := by
  intro hnil
  have hnames := names_intercalate h
  rw [hnil, names_nil] at hnames
  exact hne hnames.symm

/-- A path made of steps does not end in a separator. -/
theorem getLast?_intercalate_ne (h : ∀ step ∈ steps, IsStep step) :
    (['/'].intercalate steps).getLast? ≠ some '/' := by
  induction steps with
  | nil => simp
  | cons step rest ih =>
    have hrest : ∀ s ∈ rest, IsStep s := fun s hs => h s (List.mem_cons_of_mem _ hs)
    cases rest with
    | nil =>
      rw [List.intercalate_singleton]
      exact fun hlast => (h step List.mem_cons_self).not_mem_slash (List.mem_of_getLast? hlast)
    | cons next rest =>
      rw [List.intercalate_cons_cons,
        List.getLast?_append_of_ne_nil _ (intercalate_ne_nil hrest (List.cons_ne_nil next rest))]
      exact ih hrest

/-! ### Starts -/

/-- The component that a path starts with, if that is no name. -/
def start? : List Char → Option Component
  | [] => none
  | c :: rest =>
    if c = '/' then some .root
    else if c = '.' ∧ (rest = [] ∨ rest.head? = some '/') then some .current
    else none

/-- A path is its start and its steps. -/
theorem components_eq (path : List Char) :
    components path = (start? path).toList ++ (names path).map .name := by
  unfold components
  dsimp only
  split
  · rfl
  · rfl
  · rfl
  · rename_i hroot hcurrent hcurrent'
    have hstart : start? path = none := by
      rcases path with _ | ⟨c, _ | ⟨d, rest⟩⟩
      · rfl
      · simp_all [start?]
      · simp_all [start?]
    rw [hstart, Option.toList_none, List.nil_append]

/-- What follows a separator has no part in the start of a path. -/
theorem start?_append_cons (before after after' : List Char) :
    start? (before ++ '/' :: after) = start? (before ++ '/' :: after') := by
  rcases before with _ | ⟨c, _ | ⟨d, rest⟩⟩ <;> simp [start?]

/-- What a path starts with does not depend on what follows a slash. -/
theorem start?_append (hne : root ≠ []) (file : List Char) :
    start? (root ++ '/' :: file) = start? root := by
  rcases root with _ | ⟨c, _ | ⟨d, rest⟩⟩
  · exact absurd rfl hne
  · simp [start?]
  · simp [start?]

/-- A step starts at neither the root nor the current directory. -/
theorem start?_of_isStep {step : List Char} (h : IsStep step) : start? step = none := by
  obtain ⟨hne, hcurrent, hslash⟩ := h
  rcases step with _ | ⟨c, _ | ⟨d, rest⟩⟩
  · rfl
  · simp_all [start?, eq_comm]
  · simp_all [start?, eq_comm]

/-- A path made of steps starts with a name. -/
theorem start?_intercalate (h : ∀ step ∈ steps, IsStep step) :
    start? (['/'].intercalate steps) = none := by
  cases steps with
  | nil => rfl
  | cons step rest =>
    have hstep := h step List.mem_cons_self
    cases rest with
    | nil => rw [List.intercalate_singleton, start?_of_isStep hstep]
    | cons next rest =>
      rw [List.intercalate_cons_cons, List.append_assoc, List.singleton_append,
        start?_append hstep.ne_nil, start?_of_isStep hstep]

/-! ### Joined paths -/

/-- The components of steps with slashes between them are these steps. -/
theorem components_of_isStep (h : ∀ step ∈ steps, IsStep step) :
    components (['/'].intercalate steps) = steps.map .name := by
  rw [components_eq, start?_intercalate h, names_intercalate h]
  rfl

/-- Joining appends the steps of the file. -/
theorem components_join (hne : root ≠ []) (hfile : file.head? ≠ some '/') :
    components (join root file) = components root ++ (names file).map .name := by
  rw [join_of_head?_ne hfile, components_eq, components_eq root]
  split
  · rename_i hends
    obtain ⟨init, hinit⟩ : ∃ init, root = init ++ ['/'] := by
      rw [← List.getLast?_eq_some_iff]
      simpa [hne] using hends
    rw [hinit, List.append_assoc, List.singleton_append, names_append_cons, names_append_cons,
      start?_append_cons init file []]
    simp
  · rw [start?_append hne, names_append_cons]
    simp

/-- A path made of steps, put after a root. -/
theorem components_join_steps (root : List Char) (h : ∀ step ∈ steps, IsStep step) :
    components (join root (['/'].intercalate steps)) = components root ++ steps.map .name := by
  by_cases hne : root = []
  · rw [hne, join_nil, components_of_isStep h]
    rfl
  · rw [components_join hne (head?_intercalate_ne h), names_intercalate h]

/-- Joining twice is joining once. -/
theorem join_join (root : List Char) (hne : steps ≠ []) (h : ∀ step ∈ steps, IsStep step)
    (hfile : file.head? ≠ some '/') :
    join (join root (['/'].intercalate steps)) file =
      join root (['/'].intercalate steps ++ '/' :: file) := by
  obtain ⟨before, -, hjoin⟩ := exists_join_eq_append root
  have hsteps := intercalate_ne_nil h hne
  have hhead : (['/'].intercalate steps ++ '/' :: file).head? ≠ some '/' := by
    rw [List.head?_append_of_ne_nil _ hsteps]
    exact head?_intercalate_ne h
  rw [hjoin _ (head?_intercalate_ne h), hjoin _ hhead, join_of_head?_ne hfile, if_neg,
    List.append_assoc]
  rw [List.getLast?_append_of_ne_nil _ hsteps]
  simp [hsteps, getLast?_intercalate_ne h]

/-- A path that is not empty has components. -/
theorem components_ne_nil (hne : path ≠ []) : components path ≠ [] := by
  intro hnil
  rw [components_eq, List.append_eq_nil_iff, Option.toList_eq_nil_iff, List.map_eq_nil_iff] at hnil
  obtain ⟨hstart, hnames⟩ := hnil
  obtain ⟨piece, more, hpieces⟩ := List.exists_cons_of_ne_nil (splitAtChar_ne_nil '/' path)
  have hpiece : piece = [] ∨ piece = ['.'] := by
    by_contra hsays
    have hmem : piece ∈ names path :=
      List.mem_filter.mpr ⟨hpieces ▸ List.mem_cons_self, by simpa using hsays⟩
    simp [hnames] at hmem
  -- but then the path is empty or starts with the root or the current directory
  have hpath := intercalate_splitAtChar '/' path
  rw [hpieces] at hpath
  subst hpath
  rcases hpiece with rfl | rfl <;> cases more <;>
    simp [List.intercalate_cons_cons, start?] at hne hstart

/-! ### Written components -/

/-- A name is written as itself. -/
theorem map_toChars_name (steps : List (List Char)) :
    (steps.map Component.name).map Component.toChars = steps := by
  simp [Function.comp_def, Component.toChars]

/-- A start is no name. -/
theorem eq_root_or_eq_current {c : Component} (h : start? path = some c) :
    c = .root ∨ c = .current := by
  unfold start? at h
  split at h
  · simp at h
  · split at h
    · exact .inl (Option.some.inj h).symm
    · split at h
      · exact .inr (Option.some.inj h).symm
      · simp at h

/-- What a path starts with, as a path. -/
theorem start?_toChars {c : Component} (h : start? path = some c) :
    start? c.toChars = some c ∧ names c.toChars = [] ∧ c.toChars ≠ [] := by
  rcases eq_root_or_eq_current h with rfl | rfl <;> decide

/-- The components of a path, written with separators between them, are read back. -/
theorem components_intercalate (path : List Char) :
    components (['/'].intercalate ((components path).map Component.toChars)) =
      components path := by
  have hsteps : ∀ step ∈ names path, IsStep step := fun _ => isStep_of_mem_names
  rw [components_eq path]
  cases hstart : start? path with
  | none =>
    rw [Option.toList_none, List.nil_append, map_toChars_name, components_of_isStep hsteps]
  | some c =>
    obtain ⟨hstart', hnames, hne⟩ := start?_toChars hstart
    rw [Option.toList_some, List.singleton_append, List.map_cons, map_toChars_name,
      components_eq]
    cases hpath : names path with
    | nil => rw [List.intercalate_singleton, hstart', hnames]; rfl
    | cons step rest =>
      rw [List.intercalate_cons_cons, List.append_assoc, List.singleton_append, start?_append hne,
        names_append_cons, hstart', hnames, ← hpath, names_intercalate hsteps]
      rfl

/-- The components of a path, written with separators between them, end in the steps of the path.
-/
theorem exists_splitAtChar_intercalate (hne : names path ≠ []) :
    ∃ parts, splitAtChar '/' (['/'].intercalate ((components path).map Component.toChars)) =
      parts ++ names path := by
  have hslash : ∀ step ∈ names path, '/' ∉ step := fun _ h => (isStep_of_mem_names h).not_mem_slash
  rw [components_eq]
  cases start? path with
  | none =>
    rw [Option.toList_none, List.nil_append, map_toChars_name]
    exact ⟨[], splitAtChar_intercalate hne hslash⟩
  | some c =>
    rw [Option.toList_some, List.map_append, map_toChars_name,
      intercalate_append '/' (by simp) hne, splitAtChar_append_cons,
      splitAtChar_intercalate hne hslash]
    exact ⟨_, rfl⟩

/-! ### Identities -/

/-- A path is relative to a root if its components begin with those of the root, and the identifier
is made of the others. -/
theorem relativeTo?_eq_some_iff :
    relativeTo? root path = some id ↔
      ∃ rest, rest ≠ [] ∧ components path = components root ++ rest ∧
        id = ['/'].intercalate (rest.map Component.toChars) := by
  unfold relativeTo?
  constructor
  · intro h
    split at h
    · simp at h
    · simp at h
    · rename_i c rest hdrop
      exact ⟨c :: rest, List.cons_ne_nil c rest, dropPrefix?_eq_some_iff.mp hdrop,
        (Option.some.inj h).symm⟩
  · rintro ⟨rest, hne, hpath, rfl⟩
    obtain ⟨c, rest, rfl⟩ := List.exists_cons_of_ne_nil hne
    rw [dropPrefix?_eq_some_iff.mpr hpath]

/-- What follows a component of a path is made of steps. -/
theorem exists_steps_of_components {front rest : List Component} (hne : front ≠ [])
    (h : components path = front ++ rest) :
    ∃ steps : List (List Char), (∀ step ∈ steps, IsStep step) ∧ rest = steps.map .name := by
  have hsteps : ∃ more, (names path).map Component.name = more ++ rest := by
    rw [components_eq] at h
    cases hstart : start? path with
    | none => exact ⟨front, by simpa [hstart] using h⟩
    | some c =>
      obtain ⟨first, more, rfl⟩ := List.exists_cons_of_ne_nil hne
      rw [hstart] at h
      exact ⟨more, (List.cons.inj h).2⟩
  obtain ⟨more, hmore⟩ := hsteps
  obtain ⟨before, steps, hnames, -, hrest⟩ := List.map_eq_append_iff.mp hmore
  refine ⟨steps, fun step hstep => ?_, hrest.symm⟩
  have hmem : step ∈ names path := by
    rw [hnames]
    exact List.mem_append_right before hstep
  exact isStep_of_mem_names hmem

/-- The identity of steps below a root is made of these steps. -/
theorem relativeTo?_join (root : List Char) (hne : steps ≠ []) (h : ∀ step ∈ steps, IsStep step) :
    relativeTo? root (join root (['/'].intercalate steps)) =
      some (['/'].intercalate steps) := by
  refine relativeTo?_eq_some_iff.mpr ⟨steps.map .name, by simpa using hne,
    components_join_steps root h, ?_⟩
  rw [map_toChars_name]

/-- The path below a root that an identity names has the components of the path that has the
identity. -/
theorem components_join_of_relativeTo? (h : relativeTo? root path = some id) :
    components (join root id) = components path := by
  obtain ⟨rest, -, hpath, rfl⟩ := relativeTo?_eq_some_iff.mp h
  by_cases hroot : root = []
  · obtain rfl : rest = components path := by rw [hpath, hroot]; rfl
    rw [hroot, join_nil, components_intercalate]
  · obtain ⟨steps, hsteps, rfl⟩ := exists_steps_of_components (components_ne_nil hroot) hpath
    rw [map_toChars_name, components_join_steps root hsteps, hpath]

/-- The path below a root that an identity names ends in steps, unless the path that has the
identity is without any. -/
theorem exists_splitAtChar_join_of_relativeTo? (h : relativeTo? root path = some id)
    (hne : names path ≠ []) :
    ∃ parts steps, splitAtChar '/' (join root id) = parts ++ steps ∧ steps ≠ [] ∧
      ∀ step ∈ steps, IsStep step := by
  obtain ⟨rest, hrest, hpath, rfl⟩ := relativeTo?_eq_some_iff.mp h
  by_cases hroot : root = []
  · obtain rfl : rest = components path := by rw [hpath, hroot]; rfl
    obtain ⟨parts, hparts⟩ := exists_splitAtChar_intercalate hne
    rw [hroot, join_nil]
    exact ⟨parts, names path, hparts, hne, fun _ => isStep_of_mem_names⟩
  · obtain ⟨steps, hsteps, rfl⟩ := exists_steps_of_components (components_ne_nil hroot) hpath
    obtain ⟨parts, -, hjoin⟩ := exists_splitAtChar_join root
    have hne : steps ≠ [] := by simpa using hrest
    rw [map_toChars_name, hjoin _ (head?_intercalate_ne hsteps),
      splitAtChar_intercalate hne fun step hstep => (hsteps step hstep).not_mem_slash]
    exact ⟨parts, steps, rfl, hne, hsteps⟩

/-- Paths with one identity below a root have the same components. -/
theorem components_eq_of_relativeTo? {path' : List Char} (h : relativeTo? root path = some id)
    (h' : relativeTo? root path' = some id) : components path = components path' := by
  rw [← components_join_of_relativeTo? h, components_join_of_relativeTo? h']

/-! ### Locations -/

/-- Parts that are no steps do not change where a path leads. -/
theorem destination_stepsOf (loc : Location) (parts : List (List Char)) :
    destination loc (stepsOf parts) = destination loc parts := by
  fun_induction destination loc parts with
  | case1 => rfl
  | case2 loc part rest hmute ih => rw [stepsOf_cons_of_neg hmute, ih]
  | case3 loc rest hmute ih =>
    rw [stepsOf_cons_of_pos hmute, destination, if_neg hmute, if_pos rfl, ih]
  | case4 loc part rest hmute hparent ih =>
    rw [stepsOf_cons_of_pos hmute, destination, if_neg hmute, if_neg hparent, ih]

/-- The name that a component is, if it is one. -/
def Component.name? : Component → Option (List Char)
  | .root => none
  | .current => none
  | .name text => some text

/-- The names among the components of a path are its names. -/
theorem filterMap_name?_components (path : List Char) :
    (components path).filterMap Component.name? = names path := by
  have hstart : (start? path).toList.filterMap Component.name? = [] := by
    cases hstart : start? path with
    | none => rfl
    | some c => rcases eq_root_or_eq_current hstart with rfl | rfl <;> rfl
  rw [components_eq, List.filterMap_append, hstart, List.nil_append, List.filterMap_map]
  exact List.filterMap_some

/-- Paths with the same components have the same names. -/
theorem names_eq_of_components_eq {path' : List Char} (h : components path = components path') :
    names path = names path' := by
  rw [← filterMap_name?_components, h, filterMap_name?_components]

/-- Steps below a root add their names to those of the root. -/
theorem names_join_steps (root : List Char) (h : ∀ step ∈ steps, IsStep step) :
    names (join root (['/'].intercalate steps)) = names root ++ steps := by
  rw [← filterMap_name?_components, components_join_steps root h, List.filterMap_append,
    filterMap_name?_components, List.filterMap_map]
  exact congrArg _ List.filterMap_some

/-- Paths with the same components lead to one location. -/
theorem location_eq_of_components_eq {path' : List Char}
    (h : components path = components path') : location path = location path' := by
  rw [location, location, ← destination_stepsOf, ← destination_stepsOf [] (splitAtChar '/' path')]
  exact congrArg (destination []) (names_eq_of_components_eq h)

/-- The last name of a path, if it has one, is the name of what stands where the path leads. -/
theorem getLast?_location_of_fileName? {name : List Char} (h : fileName? path = some name) :
    (location path).getLast? = some (String.ofList name) := by
  unfold fileName? at h
  split at h
  · rename_i text hlast
    split at h
    · simp at h
    · rename_i hparent
      obtain rfl := Option.some.inj h
      -- the last component is a name, so it is the last of the steps
      have hsteps : (names path).getLast? = some text := by
        obtain ⟨front, hfront⟩ := List.getLast?_eq_some_iff.mp hlast
        rw [← filterMap_name?_components, hfront, List.filterMap_append]
        simp [Component.name?]
      obtain ⟨init, hinit⟩ := List.getLast?_eq_some_iff.mp hsteps
      have hstep : IsStep text := isStep_of_mem_names (List.mem_of_getLast? hsteps)
      have hlocation : location path = destination [] (init ++ [text]) := by
        rw [← hinit]
        exact (destination_stepsOf [] (splitAtChar '/' path)).symm
      rw [hlocation, destination_append]
      simp [destination, hstep.ne_nil, hstep.ne_current, hparent]
  · simp at h

end TrackedComments.Path

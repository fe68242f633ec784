import TrackedComments.Proofs.FileTree.Contents
import TrackedComments.Proofs.Store.StateText
import TrackedComments.Store.Basic

/-!
# What a save leaves behind

A save that succeeds makes the state file hold the saved list and nothing else. A save that fails
has touched no more than the temporary file and the lock file, so the list that was saved before is
still there.

## Main results

* `StateStore.load_of_save_ok`: after a save the saved list is loaded.
* `StateStore.changesOnly_save`: a save below a directory touches its own three files alone.
* `StateStore.keepsContents_of_prefix`: a save that has moved nothing into place has left the old
  list there.
* `StateStore.holds_of_save_ok`: what stands in the places of the store after a save.
-/

namespace TrackedComments.StateStore

/-! ### The places of a store -/

/-- The name of the temporary file. -/
def temporaryFile : String := stateFile ++ ".tmp"

/-- The name of the lock file. -/
def lockFile : String := stateFile ++ ".lock"

/-- The names of the files of a store. -/
def ownNames : List String := [stateFile, temporaryFile, lockFile]

/-- Where a file of the store with a name stands. -/
def place (s : StateStore) (name : String) : Location :=
  Path.location s.dir.toList ++ [name]

/-- Where the files of the store stand. -/
def ownPlaces (s : StateStore) : List Location :=
  ownNames.map s.place

/-- Where the files stand that a save works with before it moves the new list into place. -/
def workPlaces (s : StateStore) : List Location :=
  [s.place temporaryFile, s.place lockFile]

/-- The names of the files of a store are proper names. -/
theorem isName_of_mem_ownNames : ∀ n ∈ ownNames, IsName n.toList := by
  decide

/-- The path of the state file leads to its place. -/
theorem location_statePath (s : StateStore) :
    Path.location s.statePath.toList = s.place stateFile := by
  rw [statePath, String.toList_ofList]
  exact Path.location_join_name _ (isName_of_mem_ownNames _ (by decide))

/-- The path of the temporary file leads to its place. -/
theorem location_temporaryPath (s : StateStore) :
    Path.location s.temporaryPath.toList = s.place temporaryFile := by
  rw [temporaryPath, String.toList_ofList]
  exact Path.location_join_name _ (isName_of_mem_ownNames temporaryFile (by decide))

/-- The path of the lock file leads to its place. -/
theorem location_lockPath (s : StateStore) :
    Path.location s.lockPath.toList = s.place lockFile := by
  rw [lockPath, String.toList_ofList]
  exact Path.location_join_name _ (isName_of_mem_ownNames lockFile (by decide))

/-- Files with different names stand in different places. -/
theorem place_inj {s : StateStore} {name other : String} :
    s.place name = s.place other ↔ name = other := by
  simp [place]

/-- The state file is not among the files that a save works with. -/
theorem stateFile_not_mem_workPlaces (s : StateStore) : s.place stateFile ∉ s.workPlaces := by
  simp only [workPlaces, List.mem_cons, place_inj, List.not_mem_nil, or_false]
  decide

/-- The path of the state file leads to none of the files that a save works with. -/
theorem location_statePath_not_mem_workPlaces (s : StateStore) :
    Path.location s.statePath.toList ∉ s.workPlaces := by
  rw [location_statePath]
  exact s.stateFile_not_mem_workPlaces

/-- The files that a save works with are files of the store. -/
theorem workPlaces_subset (s : StateStore) : s.workPlaces ⊆ s.ownPlaces := by
  simp [workPlaces, ownPlaces, ownNames]

/-! ### Steps -/

/-- The places that a step of a save touches. -/
def placesOf (s : StateStore) : SaveStep → List Location
  | .openLock => [s.place lockFile]
  | .openTemporary | .writeTemporary => [s.place temporaryFile]
  | .renameTemporary => [s.place temporaryFile, s.place stateFile]
  | .createDirectory | .acquireLock | .syncTemporary | .releaseLock => []

/-- A step that creates no directory changes its places alone. -/
theorem changesOnly_runStep_of_ne {s : StateStore} {text : String} {t t' : FileTree}
    {step : SaveStep} (hne : step ≠ .createDirectory) (h : s.runStep text t step = .ok t') :
    t.ChangesOnly (s.placesOf step) t' := by
  cases step with
  | createDirectory => exact absurd rfl hne
  | openLock =>
    rw [placesOf, ← location_lockPath]
    exact FileTree.changesOnly_write h
  | openTemporary | writeTemporary =>
    rw [placesOf, ← location_temporaryPath]
    exact FileTree.changesOnly_write h
  | renameTemporary =>
    rw [placesOf, ← location_temporaryPath, ← location_statePath]
    exact FileTree.changesOnly_rename h
  | acquireLock | syncTemporary | releaseLock =>
    obtain rfl := Except.ok.inj h
    exact .refl _ _

/-- Below a directory that can be entered every step changes its places alone. -/
theorem changesOnly_runStep {s : StateStore} {text : String} {t t' : FileTree} {step : SaveStep}
    (henters : t.Enters s.dir.toList) (h : s.runStep text t step = .ok t') :
    t.ChangesOnly (s.placesOf step) t' := by
  by_cases hstep : step = .createDirectory
  · subst hstep
    rw [runStep, FileTree.createDirectories_of_enters henters] at h
    obtain rfl := Except.ok.inj h
    exact .refl _ _
  · exact changesOnly_runStep_of_ne hstep h

/-- A step leaves a tree well named. -/
theorem wellNamed_runStep {s : StateStore} {text : String} {t t' : FileTree} {step : SaveStep}
    (hnames : t.WellNamed) (h : s.runStep text t step = .ok t') : t'.WellNamed := by
  cases step with
  | createDirectory => exact hnames.createDirectories h
  | openLock => exact hnames.write h
  | openTemporary => exact hnames.write h
  | writeTemporary => exact hnames.write h
  | renameTemporary => exact hnames.rename h
  | acquireLock | syncTemporary | releaseLock => exact Except.ok.inj h ▸ hnames

/-- Steps touch the places of each of them, whether they all succeed or not. -/
theorem changesOnly_runSteps {s : StateStore} {text : String} {steps : List SaveStep}
    {t t' : FileTree} {failure : Option OsError} (henters : t.Enters s.dir.toList)
    (h : s.runSteps text t steps = (t', failure)) :
    t.ChangesOnly (steps.flatMap s.placesOf) t' := by
  induction steps generalizing t with
  | nil =>
    obtain ⟨rfl, -⟩ := Prod.mk.inj h
    exact .refl _ _
  | cons step steps ih =>
    rw [runSteps] at h
    split at h
    · rename_i t₁ hstep
      have hfirst := changesOnly_runStep henters hstep
      have hrest := ih (henters.of_directories hfirst.directories) h
      exact (hfirst.mono (by simp)).trans (hrest.mono (by simp))
    · obtain ⟨rfl, -⟩ := Prod.mk.inj h
      exact .refl _ _

/-- Steps leave a tree well named, whether they all succeed or not. -/
theorem wellNamed_runSteps {s : StateStore} {text : String} {steps : List SaveStep}
    {t t' : FileTree} {failure : Option OsError} (hnames : t.WellNamed)
    (h : s.runSteps text t steps = (t', failure)) : t'.WellNamed := by
  induction steps generalizing t with
  | nil => exact (Prod.mk.inj h).1 ▸ hnames
  | cons step steps ih =>
    rw [runSteps] at h
    split at h
    · rename_i t₁ hstep
      exact ih (wellNamed_runStep hnames hstep) h
    · exact (Prod.mk.inj h).1 ▸ hnames

/-- A step touches its places alone. It may create the directory of the store. -/
theorem keepsContents_runStep {s : StateStore} {text : String} {t t' : FileTree} {step : SaveStep}
    (h : s.runStep text t step = .ok t') : t.KeepsContents (s.placesOf step) t' := by
  by_cases hstep : step = .createDirectory
  · subst hstep
    exact FileTree.keepsContents_createDirectories h
  · exact (changesOnly_runStep_of_ne hstep h).keepsContents

/-- Steps touch the places of each of them alone, but for directories they create. -/
theorem keepsContents_runSteps {s : StateStore} {text : String} {steps : List SaveStep}
    {t t' : FileTree} {failure : Option OsError} (h : s.runSteps text t steps = (t', failure)) :
    t.KeepsContents (steps.flatMap s.placesOf) t' := by
  induction steps generalizing t with
  | nil =>
    obtain ⟨rfl, -⟩ := Prod.mk.inj h
    exact .refl _ _
  | cons step steps ih =>
    rw [runSteps] at h
    split at h
    · rename_i t₁ hstep
      exact ((keepsContents_runStep hstep).mono (by simp)).trans ((ih h).mono (by simp))
    · obtain ⟨rfl, -⟩ := Prod.mk.inj h
      exact .refl _ _

/-- Further steps are taken if none before them has failed. -/
theorem runSteps_append (s : StateStore) (text : String) (t : FileTree)
    (steps more : List SaveStep) :
    s.runSteps text t (steps ++ more) =
      match s.runSteps text t steps with
      | (t, none) => s.runSteps text t more
      | (t, some e) => (t, some e) := by
  induction steps generalizing t with
  | nil => rfl
  | cons step steps ih =>
    rw [List.cons_append, runSteps, runSteps]
    split
    · exact ih _
    · rfl

/-! ### Saves -/

/-- The steps of a save up to the one that moves the new list into place. -/
def preparation : List SaveStep :=
  [.createDirectory, .openLock, .acquireLock, .openTemporary, .writeTemporary, .syncTemporary]

/-- A save is its preparation, the move into place and the release of the lock. -/
theorem saveSteps_eq : saveSteps = preparation ++ [.renameTemporary, .releaseLock] := rfl

/-- After the preparation the temporary file holds the text. -/
theorem read_of_preparation {s : StateStore} {text : String} {t t' : FileTree}
    (h : s.runSteps text t preparation = (t', none)) :
    t'.read s.temporaryPath.toList = .ok text.toUTF8 := by
  have hsplit : preparation = [.createDirectory, .openLock, .acquireLock, .openTemporary] ++
      [.writeTemporary, .syncTemporary] := rfl
  rw [hsplit, runSteps_append] at h
  split at h
  · rw [runSteps] at h
    split at h
    · rename_i hwrite
      obtain ⟨rfl, -⟩ := Prod.mk.inj h
      exact FileTree.read_of_write hwrite
    · simp at h
  · simp at h

/-- A save prepares the new list and then moves it into place, which is all that can still fail. -/
theorem save_cases {s : StateStore} {t t' : FileTree} {records : List CommentRecord}
    {result : Except Error Unit} (h : s.save t records = (t', result)) :
    (∃ t₁, s.runSteps (StateText.write records) t preparation = (t₁, none) ∧
      t₁.rename s.temporaryPath.toList s.statePath.toList = .ok t' ∧ result = .ok ()) ∨
    (∃ failure message, s.runSteps (StateText.write records) t preparation = (t', failure) ∧
      result = .error (.stateSave s.statePath message)) := by
  rw [save, saveSteps_eq, runSteps_append] at h
  generalize hprep : s.runSteps (StateText.write records) t preparation = prepared at h
  obtain ⟨t₁, failure⟩ := prepared
  cases failure with
  | some e =>
    obtain ⟨rfl, rfl⟩ := Prod.mk.inj h
    exact .inr ⟨_, _, rfl, rfl⟩
  | none =>
    dsimp only at h
    rw [runSteps, runStep] at h
    split at h
    · rename_i hrename
      cases hmove : t₁.rename s.temporaryPath.toList s.statePath.toList with
      | error e => simp [hmove] at hrename
      | ok t₂ =>
        simp only [hmove, runSteps, runStep, Prod.mk.injEq, and_true] at hrename
        obtain ⟨rfl, rfl⟩ := Prod.mk.inj h
        exact .inl ⟨t₁, rfl, hrename ▸ hmove, rfl⟩
    · rename_i hrename
      cases hmove : t₁.rename s.temporaryPath.toList s.statePath.toList with
      | error e =>
        simp only [hmove, Prod.mk.injEq] at hrename
        obtain ⟨rfl, rfl⟩ := Prod.mk.inj h
        exact .inr ⟨none, _, by rw [hrename.1], rfl⟩
      | ok t₂ => simp [hmove, runSteps, runStep] at hrename

/-- After a save the state file holds the text of the list. -/
theorem readText_of_save_ok {s : StateStore} {t t' : FileTree} {records : List CommentRecord}
    (h : s.save t records = (t', .ok ())) :
    t'.readText s.statePath.toList = .ok (StateText.write records) := by
  rcases save_cases h with ⟨t₁, hprep, hrename, -⟩ | ⟨_, _, -, hresult⟩
  · exact FileTree.readText_eq_ok_iff.mpr
      (FileTree.read_of_rename (read_of_preparation hprep) hrename)
  · simp at hresult

/-- The loaded records are what the text of the state file says, if anything. -/
theorem load_of_readText {s : StateStore} {t : FileTree} {text : String}
    (h : t.readText s.statePath.toList = .ok text) :
    s.load t = (StateText.read? text).getD [] := by
  unfold load
  rw [h]

/-- Without a state file there are no saved records. -/
theorem load_of_get?_eq_none {s : StateStore} {t : FileTree}
    (h : t.get? (s.place stateFile) = none) : s.load t = [] := by
  unfold load
  split
  · rename_i text htext
    have hnode := (FileTree.read_eq_ok_iff.mp (FileTree.readText_eq_ok_iff.mp htext)).2
    rw [location_statePath, h] at hnode
    simp at hnode
  · rfl

/-- After a save the saved list is loaded. -/
theorem load_of_save_ok {s : StateStore} {t t' : FileTree} {records : List CommentRecord}
    (h : s.save t records = (t', .ok ())) : s.load t' = records := by
  rw [load_of_readText (readText_of_save_ok h), StateText.read?_write, Option.getD_some]

/-- The preparation touches no more than the files that a save works with. -/
theorem flatMap_placesOf_preparation_subset (s : StateStore) :
    preparation.flatMap s.placesOf ⊆ s.workPlaces := by
  simp [preparation, placesOf, workPlaces]

/-- A save below a directory touches its own three files alone. -/
theorem changesOnly_save {s : StateStore} {t t' : FileTree} {records : List CommentRecord}
    {result : Except Error Unit} (henters : t.Enters s.dir.toList)
    (h : s.save t records = (t', result)) : t.ChangesOnly s.ownPlaces t' := by
  have hwork := List.Subset.trans (flatMap_placesOf_preparation_subset s) s.workPlaces_subset
  rcases save_cases h with ⟨t₁, hprep, hrename, -⟩ | ⟨_, _, hprep, -⟩
  · have hmove := FileTree.changesOnly_rename hrename
    rw [location_temporaryPath, location_statePath] at hmove
    exact ((changesOnly_runSteps henters hprep).mono hwork).trans
      (hmove.mono (by simp [ownPlaces, ownNames]))
  · exact (changesOnly_runSteps henters hprep).mono hwork

/-- Steps that move nothing into place touch no more than the files that a save works with. -/
theorem flatMap_placesOf_subset_of_prefix (s : StateStore) {steps : List SaveStep}
    (h : steps <+: preparation) : steps.flatMap s.placesOf ⊆ s.workPlaces := by
  intro place hplace
  obtain ⟨step, hstep, hplace⟩ := List.mem_flatMap.mp hplace
  exact s.flatMap_placesOf_preparation_subset
    (List.mem_flatMap.mpr ⟨step, h.subset hstep, hplace⟩)

/-- A save that has not moved the new list into place has left the old one there. -/
theorem keepsContents_of_prefix {s : StateStore} {text : String} {t t' : FileTree}
    {steps : List SaveStep} {failure : Option OsError} (hsteps : steps <+: preparation)
    (h : s.runSteps text t steps = (t', failure)) :
    t.KeepsContents s.workPlaces t' ∧
      t'.contentAt? (s.place stateFile) = t.contentAt? (s.place stateFile) := by
  have hkeeps := (keepsContents_runSteps h).mono (s.flatMap_placesOf_subset_of_prefix hsteps)
  exact ⟨hkeeps, hkeeps.contentAt?_eq _ s.stateFile_not_mem_workPlaces⟩

/-- A save leaves a tree well named, whether it succeeds or not. -/
theorem wellNamed_save {s : StateStore} {t t' : FileTree} {records : List CommentRecord}
    {result : Except Error Unit} (hnames : t.WellNamed)
    (h : s.save t records = (t', result)) : t'.WellNamed := by
  rcases save_cases h with ⟨t₁, hprep, hrename, -⟩ | ⟨_, _, hprep, -⟩
  · exact (wellNamed_runSteps hnames hprep).rename hrename
  · exact wellNamed_runSteps hnames hprep

/-- A link has been recorded if the list with it has been saved. -/
theorem recordIssue_eq_ok_iff {s : StateStore} {t t' : FileTree} {record : CommentRecord}
    {number : UInt64} {records : List CommentRecord} :
    s.recordIssue t record number = (t', .ok records) ↔
      s.save t (linkRecord (s.load t) record number) = (t', .ok ()) ∧
        linkRecord (s.load t) record number = records := by
  unfold recordIssue
  dsimp only
  obtain ⟨t₁, result⟩ := s.save t (linkRecord (s.load t) record number)
  cases result <;> simp

/-- A link fails to be recorded just when the list with it fails to be saved. -/
theorem recordIssue_eq_error_iff {s : StateStore} {t t' : FileTree} {record : CommentRecord}
    {number : UInt64} {e : Error} :
    s.recordIssue t record number = (t', .error e) ↔
      s.save t (linkRecord (s.load t) record number) = (t', .error e) := by
  unfold recordIssue
  dsimp only
  obtain ⟨t₁, result⟩ := s.save t (linkRecord (s.load t) record number)
  cases result <;> simp

/-- A save fails in one way only. -/
theorem error_of_save_error {s : StateStore} {t t' : FileTree} {records : List CommentRecord}
    {e : Error} (h : s.save t records = (t', .error e)) :
    ∃ message, e = .stateSave s.statePath message := by
  rcases save_cases h with ⟨_, _, _, hresult⟩ | ⟨_, message, -, hresult⟩
  · simp at hresult
  · exact ⟨message, Except.error.inj hresult⟩

/-! ### Saves that succeed -/

/-- A tree in which a store can save: its directory is there, and no directory stands in the place
of one of its files. -/
structure Ready (s : StateStore) (t : FileTree) : Prop where
  enters : t.Enters s.dir.toList
  free : ∀ place ∈ s.ownPlaces, t.get? place ≠ some .directory

/-- A store stays ready as long as directories are neither created nor removed. -/
theorem Ready.of_changesOnly {s : StateStore} {t t' : FileTree} {places : List Location}
    (h : s.Ready t) (hframe : t.ChangesOnly places t') : s.Ready t' :=
  ⟨h.enters.of_directories hframe.directories, fun place hplace hdir =>
    h.free place hplace ((hframe.directory_iff place).mp hdir)⟩

/-- Below a directory that can be entered, the paths of the store lead to its places. -/
theorem locate_of_enters {s : StateStore} {t : FileTree} (h : t.Enters s.dir.toList)
    (name : String) (hname : name ∈ ownNames) :
    t.locate (Path.join s.dir.toList name.toList) = .ok (s.place name) := by
  have hplain : ∀ n ∈ ownNames, '\x00' ∉ n.toList ∧ n.utf8ByteSize ≤ FileTree.maxNameLength := by
    decide
  exact h.locate_join (isName_of_mem_ownNames name hname) (hplain name hname).1
    (hplain name hname).2

/-- A file of a store that is ready can be written. -/
theorem Ready.exists_write {s : StateStore} {t : FileTree} (h : s.Ready t) (name : String)
    (hname : name ∈ ownNames) (text : String) :
    ∃ t', t.writeText (Path.join s.dir.toList name.toList) text = .ok t' ∧ s.Ready t' := by
  have hfree := h.free (s.place name) (List.mem_map_of_mem hname)
  have hwrite : t.writeText (Path.join s.dir.toList name.toList) text =
      .ok (t.set (s.place name) (.file text.toUTF8)) :=
    FileTree.write_of_locate (locate_of_enters h.enters name hname) hfree
  exact ⟨_, hwrite, h.of_changesOnly (FileTree.changesOnly_write hwrite)⟩

/-- In a store that is ready every step succeeds that moves nothing. -/
theorem Ready.exists_runStep {s : StateStore} {t : FileTree} (h : s.Ready t) (text : String)
    {step : SaveStep} (hne : step ≠ .renameTemporary) :
    ∃ t', s.runStep text t step = .ok t' ∧ s.Ready t' := by
  have htemporary : s.temporaryPath.toList = Path.join s.dir.toList temporaryFile.toList :=
    String.toList_ofList
  have hlock : s.lockPath.toList = Path.join s.dir.toList lockFile.toList := String.toList_ofList
  cases step with
  | createDirectory => exact ⟨t, FileTree.createDirectories_of_enters h.enters, h⟩
  | openLock =>
    rw [runStep, hlock]
    exact h.exists_write lockFile (by decide) ""
  | openTemporary =>
    rw [runStep, htemporary]
    exact h.exists_write temporaryFile (by decide) ""
  | writeTemporary =>
    rw [runStep, htemporary]
    exact h.exists_write temporaryFile (by decide) text
  | renameTemporary => exact absurd rfl hne
  | acquireLock | syncTemporary | releaseLock => exact ⟨t, rfl, h⟩

/-- In a store that is ready all steps succeed that move nothing. -/
theorem Ready.exists_runSteps {s : StateStore} {t : FileTree} (h : s.Ready t) (text : String)
    {steps : List SaveStep} (hne : .renameTemporary ∉ steps) :
    ∃ t', s.runSteps text t steps = (t', none) ∧ s.Ready t' := by
  induction steps generalizing t with
  | nil => exact ⟨t, rfl, h⟩
  | cons step steps ih =>
    rw [List.mem_cons, not_or] at hne
    obtain ⟨t₁, hstep, h₁⟩ := h.exists_runStep text (Ne.symm hne.1)
    rw [runSteps, hstep]
    exact ih h₁ hne.2

/-- A store that is ready saves every list. -/
theorem Ready.exists_save {s : StateStore} {t : FileTree} (h : s.Ready t)
    (records : List CommentRecord) : ∃ t', s.save t records = (t', .ok ()) ∧ s.Ready t' := by
  obtain ⟨t₁, hprep, h₁⟩ := h.exists_runSteps (StateText.write records)
    (show .renameTemporary ∉ preparation by decide)
  have htarget := locate_of_enters h₁.enters stateFile (by decide)
  have hfree := h₁.free (s.place stateFile) (List.mem_map_of_mem (by decide))
  have hstate : s.statePath.toList = Path.join s.dir.toList stateFile.toList :=
    String.toList_ofList
  rw [← location_statePath] at htarget hfree
  rw [← hstate] at htarget
  have hrename := FileTree.rename_of_read (read_of_preparation hprep) htarget hfree
  refine ⟨_, ?_, h₁.of_changesOnly (FileTree.changesOnly_rename hrename)⟩
  simp only [save, saveSteps_eq, runSteps_append, hprep, runSteps, runStep, hrename]

/-- A store that is ready records every link. -/
theorem Ready.exists_recordIssue {s : StateStore} {t : FileTree} (h : s.Ready t)
    (record : CommentRecord) (number : UInt64) :
    ∃ t', s.recordIssue t record number = (t', .ok (linkRecord (s.load t) record number)) ∧
      s.Ready t' := by
  obtain ⟨t', hsave, hready⟩ := h.exists_save (linkRecord (s.load t) record number)
  exact ⟨t', recordIssue_eq_ok_iff.mpr ⟨hsave, rfl⟩, hready⟩

/-! ### Trees as a save leaves them -/

/-- Whether a tree is as a save of a list leaves it: the state file holds the list, the temporary
file is gone, and the lock file is empty. -/
structure Holds (s : StateStore) (t : FileTree) (records : List CommentRecord) : Prop where
  enters : t.Enters s.dir.toList
  state : t.get? (s.place stateFile) = some (.file (StateText.write records).toUTF8)
  temporary : t.get? (s.place temporaryFile) = none
  lock : t.get? (s.place lockFile) = some (.file "".toUTF8)

/-- Where there is a state file, its directory can be entered. -/
theorem enters_of_readText {s : StateStore} {t : FileTree} {text : String}
    (h : t.readText s.statePath.toList = .ok text) : t.Enters s.dir.toList := by
  have hlocate := (FileTree.read_eq_ok_iff.mp (FileTree.readText_eq_ok_iff.mp h)).1
  have hname : IsName stateFile.toList := isName_of_mem_ownNames _ (by decide)
  rw [statePath, String.toList_ofList, ← pathOf_singleton stateFile] at hlocate
  exact FileTree.enters_of_locate_join (List.cons_ne_nil _ _) (areNames_singleton.mpr hname) hlocate

/-- After the preparation the lock file is empty. -/
theorem get?_lockFile_of_preparation {s : StateStore} {text : String} {t t' : FileTree}
    (h : s.runSteps text t preparation = (t', none)) :
    t'.get? (s.place lockFile) = some (.file "".toUTF8) := by
  have hsplit : preparation = [.createDirectory, .openLock] ++
      [.acquireLock, .openTemporary, .writeTemporary, .syncTemporary] := rfl
  rw [hsplit, runSteps_append] at h
  split at h
  · rename_i t₁ hlock
    have hwritten : t₁.contentAt? (s.place lockFile) = some "".toUTF8 := by
      rw [runSteps] at hlock
      split at hlock
      · rw [runSteps] at hlock
        split at hlock
        · rename_i hwrite
          obtain ⟨rfl, -⟩ := Prod.mk.inj hlock
          rw [← location_lockPath]
          exact FileTree.contentAt?_of_read (FileTree.read_of_write hwrite)
        · simp at hlock
      · simp at hlock
    have hkeeps := keepsContents_runSteps h
    rw [← FileTree.contentAt?_eq_some_iff, hkeeps.contentAt?_eq _ ?_, hwritten]
    simp only [List.flatMap_cons, List.flatMap_nil, placesOf, List.nil_append, List.append_nil,
      List.cons_append, List.mem_cons, place_inj, List.not_mem_nil, or_false]
    decide
  · simp at h

/-- After a save the tree is as the save of its list leaves it. -/
theorem holds_of_save_ok {s : StateStore} {t t' : FileTree} {records : List CommentRecord}
    (h : s.save t records = (t', .ok ())) : s.Holds t' records := by
  have hread := readText_of_save_ok h
  have hstate := (FileTree.read_eq_ok_iff.mp (FileTree.readText_eq_ok_iff.mp hread)).2
  rw [location_statePath] at hstate
  rcases save_cases h with ⟨t₁, hprep, hrename, -⟩ | ⟨_, _, -, hresult⟩
  · have hmoved := FileTree.changesOnly_rename hrename
    obtain ⟨content, -, -, -, htree⟩ := FileTree.rename_eq_ok hrename
    rw [location_temporaryPath, location_statePath] at hmoved htree
    refine ⟨enters_of_readText hread, hstate, ?_, ?_⟩
    · have hne : s.place temporaryFile ≠ s.place stateFile := by
        rw [Ne, place_inj]
        decide
      have hnil : s.place temporaryFile ≠ [] := by simp [place]
      rw [htree, FileTree.get?_set hnil, if_neg hne, FileTree.get?_erase hnil, if_pos rfl]
    · rw [hmoved.get?_eq _ ?_, get?_lockFile_of_preparation hprep]
      simp only [List.mem_cons, place_inj, List.not_mem_nil, or_false]
      decide
  · simp at hresult

namespace Holds

variable {s : StateStore} {t t' : FileTree} {records : List CommentRecord}

/-- The state file holds the text of the list. -/
theorem readText (h : s.Holds t records) :
    t.readText s.statePath.toList = .ok (StateText.write records) := by
  have hlocate := locate_of_enters h.enters stateFile (by decide)
  rw [statePath, String.toList_ofList, FileTree.readText_eq_ok_iff, FileTree.read_eq_ok_iff,
    Path.location_join_name _ (isName_of_mem_ownNames _ (by decide))]
  exact ⟨hlocate, h.state⟩

/-- What is loaded is the list that has been saved. -/
theorem load (h : s.Holds t records) : s.load t = records := by
  rw [load_of_readText h.readText, StateText.read?_write, Option.getD_some]

/-- What has been saved can be saved again. -/
theorem ready (h : s.Holds t records) : s.Ready t := by
  refine ⟨h.enters, fun place hplace => ?_⟩
  obtain ⟨name, hname, rfl⟩ := List.mem_map.mp hplace
  simp only [ownNames, List.mem_cons, List.not_mem_nil, or_false] at hname
  rcases hname with rfl | rfl | rfl
  · simp [h.state]
  · simp [h.temporary]
  · simp [h.lock]

/-- A change elsewhere leaves what is held. -/
theorem of_changesOnly (h : s.Holds t records) {places : List Location}
    (hframe : t.ChangesOnly places t') (hplaces : ∀ place ∈ s.ownPlaces, place ∉ places) :
    s.Holds t' records := by
  have hkeep (name : String) (hname : name ∈ ownNames) :=
    hframe.get?_eq _ (hplaces (s.place name) (List.mem_map_of_mem hname))
  exact ⟨h.enters.of_directories hframe.directories,
    (hkeep stateFile (by decide)).trans h.state,
    (hkeep temporaryFile (by decide)).trans h.temporary,
    (hkeep lockFile (by decide)).trans h.lock⟩

/-- Trees that hold the same list have the same files of the store. -/
theorem get?_eq (h : s.Holds t records) (h' : s.Holds t' records) {place : Location}
    (hplace : place ∈ s.ownPlaces) : t'.get? place = t.get? place := by
  obtain ⟨name, hname, rfl⟩ := List.mem_map.mp hplace
  simp only [ownNames, List.mem_cons, List.not_mem_nil, or_false] at hname
  rcases hname with rfl | rfl | rfl
  · rw [h.state, h'.state]
  · rw [h.temporary, h'.temporary]
  · rw [h.lock, h'.lock]

end Holds

end TrackedComments.StateStore

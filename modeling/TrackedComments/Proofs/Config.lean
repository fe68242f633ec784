import TrackedComments.Config
import TrackedComments.Proofs.FileTree.Texts
import TrackedComments.Proofs.Toml.Document

/-!
# Written configurations load

A configuration is written as lines of keys and two tables. Read back, they are the same settings,
whatever characters the texts consist of: absent settings have no line and stay absent, and the
tables come last so that they take no key of the others.

## Main results

* `Config.read?_write`: the document that a written configuration is.
* `Config.ofToml?_toToml`: the settings that the document stands for.
* `Config.load_of_write`: a configuration that has been written to its file is loaded.
-/

namespace TrackedComments.Config

open Toml

/-! ### The document of a configuration -/

/-- A key with a text. -/
def textEntry (key value : String) : Entry :=
  ⟨key, .string value, writeString value⟩

/-- A key with a truth value. -/
def boolEntry (key : String) (value : Bool) : Entry :=
  ⟨key, .boolean value, writeBool value⟩

/-- A key with a number. -/
def numberEntry (key : String) (value : UInt64) : Entry :=
  ⟨key, .integer value.toNat, Nat.toDigits 10 value.toNat⟩

/-- The keys before the first table. -/
def wholeEntries (c : Config) : List Entry :=
  [textEntry "pattern" c.pattern, textEntry "include" c.include_, textEntry "exclude" c.exclude,
    boolEntry "respect_gitignore" c.respectGitignore,
    numberEntry "concurrency" c.concurrency]

/-- The keys of the view. -/
def viewEntries (c : Config) : List Entry :=
  [boolEntry "case_insensitive" c.view.caseInsensitive]

/-- The keys of the remote repository. -/
def gitHubEntries (c : Config) : List Entry :=
  c.github.owner.elim [] (fun owner => [textEntry "owner" owner]) ++
    c.github.repo.elim [] (fun repo => [textEntry "repo" repo]) ++
    [textEntry "api_url" c.github.apiUrl]

/-- The document of a configuration. -/
def toToml (c : Config) : Entries :=
  c.wholeEntries.map Entry.pair ++ [("view", .table .explicit (c.viewEntries.map Entry.pair))] ++
    [("github", .table .explicit (c.gitHubEntries.map Entry.pair))]

/-- A text can be written after a bare key. -/
theorem valid_textEntry {key : String} (h : IsBareKey key) (value : String) :
    (textEntry key value).Valid :=
  ⟨h, .string value⟩

/-- A truth value can be written after a bare key. -/
theorem valid_boolEntry {key : String} (h : IsBareKey key) (value : Bool) :
    (boolEntry key value).Valid := by
  cases value with
  | true => exact ⟨h, .true⟩
  | false => exact ⟨h, .false⟩

/-- A number can be written after a bare key. -/
theorem valid_numberEntry {key : String} (h : IsBareKey key) (value : UInt64) :
    (numberEntry key value).Valid :=
  ⟨h, .integer _⟩

/-- The line of a text as it is written. -/
theorem line_textEntry (key value : String) : (textEntry key value).line = textLine key value :=
  rfl

theorem line_boolEntry (key : String) (value : Bool) :
    (boolEntry key value).line = line key (writeBool value) := rfl

theorem line_numberEntry (key : String) (value : UInt64) :
    (numberEntry key value).line = line key (Nat.toDigits 10 value.toNat) := rfl

/-- A text that may be missing is written as its line, or as none. -/
theorem flatMap_line_elim (key : String) (value : Option String) :
    (value.elim [] fun text => [textEntry key text]).flatMap Entry.line =
      value.elim [] (textLine key) := by
  cases value with
  | none => rfl
  | some text => simp [line_textEntry]

/-- What is written is the lines of the document. -/
theorem toList_write (c : Config) :
    c.write.toList = c.wholeEntries.flatMap Entry.line ++
      (['\n'] ++ headerLine "view" ++ c.viewEntries.flatMap Entry.line) ++
      (['\n'] ++ headerLine "github" ++ c.gitHubEntries.flatMap Entry.line) := by
  have hview : "\n[view]\n".toList = ['\n'] ++ headerLine "view" := by decide
  have hgithub : "\n[github]\n".toList = ['\n'] ++ headerLine "github" := by decide
  simp only [write, String.toList_ofList, hview, hgithub, wholeEntries, viewEntries,
    gitHubEntries, List.flatMap_cons, List.flatMap_nil, List.flatMap_append, List.append_nil,
    List.append_assoc, line_textEntry, line_boolEntry, line_numberEntry,
    flatMap_line_elim]

/-- The entries of the whole document can all be written. -/
theorem valid_wholeEntries (c : Config) : ∀ e ∈ c.wholeEntries, e.Valid := by
  simp only [wholeEntries, List.forall_mem_cons, List.not_mem_nil, false_imp_iff, implies_true,
    and_true]
  exact ⟨valid_textEntry (by decide) _, valid_textEntry (by decide) _,
    valid_textEntry (by decide) _, valid_boolEntry (by decide) _,
    valid_numberEntry (by decide) _⟩

/-- The entries about the view can all be written. -/
theorem valid_viewEntries (c : Config) : ∀ e ∈ c.viewEntries, e.Valid := by
  rintro e he
  obtain rfl := List.mem_singleton.mp he
  exact valid_boolEntry (by decide) _

/-- The entries about the tracker can all be written. -/
theorem valid_gitHubEntries (c : Config) : ∀ e ∈ c.gitHubEntries, e.Valid := by
  intro e he
  simp only [gitHubEntries, List.mem_append, List.mem_singleton] at he
  rcases he with (he | he) | rfl
  · cases howner : c.github.owner with
    | none => simp [howner] at he
    | some owner =>
      obtain rfl : e = textEntry "owner" owner := by simpa [howner] using he
      exact valid_textEntry (by decide) _
  · cases hrepo : c.github.repo with
    | none => simp [hrepo] at he
    | some repo =>
      obtain rfl : e = textEntry "repo" repo := by simpa [hrepo] using he
      exact valid_textEntry (by decide) _
  · exact valid_textEntry (by decide) _

/-- No key about the tracker is written twice. -/
theorem nodup_key_gitHubEntries (c : Config) : (c.gitHubEntries.map Entry.key).Nodup := by
  unfold gitHubEntries
  cases c.github.owner <;> cases c.github.repo <;> simp [textEntry]

/-- The lines of the document lead to it. -/
theorem readsAs_write (c : Config) :
    Document.ReadsAs ⟨[], []⟩ c.write.toList ⟨c.toToml, ["github"]⟩ := by
  have hwhole : Document.ReadsAs ⟨[], []⟩ (c.wholeEntries.flatMap Entry.line)
      ⟨c.wholeEntries.map Entry.pair, []⟩ :=
    Document.readsAs_entries Document.takes_whole c.valid_wholeEntries (fun _ _ => rfl)
      (by simp [wholeEntries, textEntry, boolEntry, numberEntry])
  rw [toList_write]
  refine (hwhole.append (Document.readsAs_table (by decide) ?_ c.valid_viewEntries ?_)).append
    (Document.readsAs_table (by decide) ?_ c.valid_gitHubEntries c.nodup_key_gitHubEntries)
  · rfl
  · simp [viewEntries]
  · rfl

/-- The document of a configuration is what is read. -/
theorem read?_write (c : Config) : Toml.read? c.write.toList = some c.toToml := by
  refine read?_of_readsAs c.readsAs_write ?_
  rw [toList_write]
  simp [wholeEntries, textEntry, Entry.line]

/-- A setting that is there is read. -/
theorem settingOr_some {α : Type} {default setting : α} {read : Toml.Value → Option α}
    {value : Toml.Value} (h : read value = some setting) :
    settingOr default read (some value) = some setting := h

/-- A number of 64 bits is a natural one within its bounds. -/
theorem natural?_toNat (value : UInt64) :
    (Toml.Value.integer value.toNat).natural? = some value := by
  have hlt : (value.toNat : Int) < UInt64.size := by exact_mod_cast value.toNat_lt
  rw [Toml.Value.natural?, if_pos ⟨Int.natCast_nonneg _, hlt⟩]
  simp

/-- The settings of the view are read from the entries about them. -/
theorem ofToml?_viewEntries (c : Config) :
    ViewConfig.ofToml? (.table .explicit (c.viewEntries.map Entry.pair)) = some c.view := by
  rfl

/-- The settings of the tracker are read from the entries about them. -/
theorem ofToml?_gitHubEntries (c : Config) :
    GitHubConfig.ofToml? (.table .explicit (c.gitHubEntries.map Entry.pair)) = some c.github := by
  obtain ⟨-, -, -, -, -, -, owner, repo, apiUrl⟩ := c
  cases owner <;> cases repo <;> rfl

/-- The settings of the document are those of the configuration. -/
theorem ofToml?_toToml (c : Config) : ofToml? c.toToml = some c := by
  have hfields : (Toml.Value.table .explicit c.toToml).fields?
      ["pattern", "include", "exclude", "respect_gitignore", "concurrency", "view", "github"] =
        some [some (.string c.pattern), some (.string c.include_), some (.string c.exclude),
          some (.boolean c.respectGitignore), some (.integer c.concurrency.toNat),
          some (.table .explicit (c.viewEntries.map Entry.pair)),
          some (.table .explicit (c.gitHubEntries.map Entry.pair))] := rfl
  unfold ofToml?
  dsimp only
  rw [hfields, Option.bind_eq_bind, Option.bind_some]
  dsimp only
  rw [settingOr_some (natural?_toNat c.concurrency), settingOr_some c.ofToml?_viewEntries,
    settingOr_some c.ofToml?_gitHubEntries]
  rfl

/-- A text is read as the configuration that its entries say. -/
theorem read_eq_ok {text : String} {entries : Entries} {c : Config}
    (h : Toml.read? text.toList = some entries) (hc : ofToml? entries = some c) :
    read text = .ok c := by
  rw [read, h]
  dsimp only
  rw [hc]

/-! ### Files -/

/-- A configuration that has been written to its file is loaded. -/
theorem load_of_write {t t' : FileTree} {root : String} {c : Config}
    (h : t.writeText (path root).toList c.write = .ok t') : load t' root = .ok c := by
  have hread : t'.read (path root).toList = .ok c.write.toUTF8 := FileTree.read_of_write h
  have hexists : t'.pathExists (path root).toList := by
    obtain ⟨hlocate, hnode⟩ := FileTree.read_eq_ok_iff.mp hread
    rw [FileTree.pathExists, FileTree.find, hlocate]
    dsimp only
    rw [hnode]
    rfl
  have hconfig := read_eq_ok c.read?_write c.ofToml?_toToml
  unfold load
  dsimp only
  rw [if_pos hexists, FileTree.readText_eq_ok_iff.mpr hread]
  dsimp only
  rw [hconfig]

/-- A change elsewhere leaves the configuration as it is. -/
theorem load_of_changesOnly {t t' : FileTree} {places : List Location}
    (hframe : t.ChangesOnly places t') {root : String}
    (hplace : Path.location (path root).toList ∉ places) {c : Config} (h : load t root = .ok c) :
    load t' root = .ok c := by
  unfold load at h ⊢
  dsimp only at h ⊢
  split at h
  · rename_i hexists
    rw [if_pos (hframe.pathExists hplace hexists)]
    cases hread : t.readText (path root).toList with
    | error fault => simp [hread] at h
    | ok text =>
      rw [hread] at h
      rw [hframe.readText hplace hread]
      exact h
  · rename_i hnone
    rw [if_neg (mt (hframe.symm.pathExists hplace) hnone)]
    exact h

/-- A configuration with texts of all four forms. -/
def manyForms : Config where
  pattern := "\"\"\"\n'''\x07\""
  include_ := "C:\\*.\"ts\""
  exclude := "it's \"\" \t"
  concurrency := 18446744073709551615
  github := { owner := some "line\n\\", apiUrl := "http://localhost" }

example : [manyForms.pattern, manyForms.include_, manyForms.exclude, "line\n\\",
    manyForms.github.apiUrl].map (fun text => StringForm.choose text.toList) =
      [.tripleBasic, .literal, .tripleBasic, .tripleLiteral, .basic] := by
  decide

/-- The configuration in the file of an empty directory. -/
theorem load_manyForms : ∃ t, FileTree.empty.writeText (path ".").toList manyForms.write = .ok t ∧
    load t "." = .ok manyForms := by
  have hname : FileTree.IsPlain fileName := ⟨by decide, by decide, by decide⟩
  have hlocate := FileTree.empty.enters_current.locate_join hname.isName hname.not_mem_nul
    hname.short
  have hfree : FileTree.empty.get? (Path.location ".".toList ++ [fileName]) ≠ some .directory := by
    decide
  have hpath : (path ".").toList = Path.join ".".toList fileName.toList := String.toList_ofList
  rw [← hpath] at hlocate
  obtain ⟨t, hwrite⟩ : ∃ t, FileTree.empty.writeText (path ".").toList manyForms.write = .ok t :=
    ⟨_, FileTree.write_of_locate hlocate hfree⟩
  exact ⟨t, hwrite, load_of_write hwrite⟩

end TrackedComments.Config

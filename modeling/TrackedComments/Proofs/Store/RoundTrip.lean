import TrackedComments.Proofs.FileTree.Texts

/-!
# Saving and loading

What a save has written is loaded again, whatever the state file held before and whatever the texts
of the records are. The saved document has one object for each record, and an object has a member
for the number only if its record has one.

A document need not have been saved to be loaded: its records may be arrays or have members that
mean nothing, in any order. What it holds stays the same when it is loaded and saved.

## Main results

* `StateStore.round_trip`: a list that has been saved is loaded as it was.
-/

namespace TrackedComments.StateStore

/-- The items of a document are objects, one for each record, with a member for the number exactly
where the record has one. -/
def HasObjects (records : List CommentRecord) (items : List Json) : Prop :=
  List.Forall₂ (fun r item => ∃ members, item = .object members ∧
    (some "issueNumber" ∈ members.map Prod.fst ↔ r.issueNumber.isSome)) records items

/-- The values of records are objects that give these records. -/
theorem hasObjects_map_toJson (records : List CommentRecord) :
    HasObjects records (records.map CommentRecord.toJson) :=
  List.forall₂_map_right_iff.mpr (List.forall₂_same.mpr fun r _ => r.exists_toJson_eq)

/-- A list that has been saved is loaded as it was, from a document with one object for each record.
The list that any document holds is still the same after it has been loaded, saved and loaded again.
-/
theorem round_trip (s : StateStore) (t t' : FileTree) :
    (∀ records, s.save t records = (t', .ok ()) →
      s.load t' = records ∧
      ∃ text items, t'.readText s.statePath.toList = .ok text ∧
        Json.ofChars? text.toList = some (.array items) ∧ HasObjects records items) ∧
    ∀ text records, t.readText s.statePath.toList = .ok text →
      StateText.read? text = some records → s.save t (s.load t) = (t', .ok ()) →
      s.load t = records ∧ s.load t' = s.load t := by
  refine ⟨fun records h => ?_, fun text records hread hrecords h => ?_⟩
  · exact ⟨load_of_save_ok h, StateText.write records, records.map CommentRecord.toJson,
      readText_of_save_ok h, StateText.ofChars?_write records, hasObjects_map_toJson records⟩
  · rw [load_of_save_ok h, load_of_readText hread, hrecords, Option.getD_some]
    exact ⟨rfl, rfl⟩

/-! ### A document that has not been saved -/

/-- A document with two records of one line, an array of the first fields and an object. -/
def sampleDocument : String :=
  "[[\"a.ts\", 3, \"x\\u0000\", \"\", \x7b\"k\": \"\\\"\"\x7d], " ++
    "\x7b\"issueNumber\": 18446744073709551615, \"more\": null, \"file\": \"a.ts\", " ++
    "\"line\": 3, \"text\": \"\\ud83d\\ude00\", \"message\": \"\"\x7d]"

/-- The records of the document. -/
def sampleRecords : List CommentRecord :=
  [{ file := "a.ts", line := 3, text := "x\x00", message := "", metadata := .ofList [("k", "\"")] },
    { file := "a.ts", line := 3, text := "😀", message := "",
      issueNumber := some 18446744073709551615 }]

/-- The document is read as its records. -/
theorem read?_sampleDocument : StateText.read? sampleDocument = some sampleRecords := by
  decide +kernel

/-- A document that somebody has written by hand is loaded, saved and loaded again. -/
theorem round_trip_sampleDocument :
    ∃ t t' : FileTree, t.readText (mk ".").statePath.toList = .ok sampleDocument ∧
      (mk ".").save t sampleRecords = (t', .ok ()) ∧ (mk ".").load t = sampleRecords ∧
      (mk ".").load t' = sampleRecords ∧
      ∃ text items, t'.readText (mk ".").statePath.toList = .ok text ∧
        Json.ofChars? text.toList = some (.array items) ∧ HasObjects sampleRecords items := by
  have hname : FileTree.IsPlain stateFile := ⟨by decide, by decide, by decide⟩
  have htext : FileTree.IsText sampleDocument := by
    unfold FileTree.IsText
    decide +kernel
  have hread : (FileTree.single stateFile sampleDocument).readText (mk ".").statePath.toList =
      .ok sampleDocument := by
    rw [statePath, String.toList_ofList]
    refine (FileTree.enters_current _).readText hname ?_
    rw [FileTree.location_current]
    exact FileTree.get?_single _ _ _ (by simp)
  obtain ⟨t', hsave, -⟩ := (FileTree.holdsTexts_single hname htext).ready.exists_save sampleRecords
  have hload : (mk ".").load (.single stateFile sampleDocument) = sampleRecords := by
    rw [load_of_readText hread, read?_sampleDocument, Option.getD_some]
  obtain ⟨hsaved, hloaded⟩ := round_trip (mk ".") (.single stateFile sampleDocument) t'
  obtain ⟨-, hagain⟩ := hloaded _ _ hread read?_sampleDocument (by rw [hload]; exact hsave)
  exact ⟨_, t', hread, hsave, hload, hagain.trans hload, (hsaved _ hsave).2⟩

end TrackedComments.StateStore

import TrackedComments.Proofs.Json.ReadBack
import TrackedComments.Store.StateText

/-!
# Saved states read back

The text that a list of records is saved as holds exactly those records, in their order and with all
their fields.

## Main results

* `Metadata.ofList_entries`: pairs in ascending order are put together as they are.
* `CommentRecord.ofJson?_toJson`: the JSON object of a record gives the record back.
* `StateText.read?_write`: the text of a saved list gives the list back.
-/

namespace TrackedComments

/-- Reading every item of a list gives the list, if each item is read from what stands for it. -/
theorem mapM_map_eq_some {α β : Type} {f : α → β} {g : β → Option α} (h : ∀ a, g (f a) = some a)
    (items : List α) : (items.map f).mapM g = some items := by
  induction items with
  | nil => rfl
  | cons a items ih => rw [List.map_cons, List.mapM_cons, h, ih]; rfl

namespace Metadata

/-- A pair with the greatest key is put at the end. -/
theorem insertEntry_of_forall_lt {key value : String} {entries : List (String × String)}
    (h : ∀ e ∈ entries, e.1 < key) :
    insertEntry key value entries = entries ++ [(key, value)] := by
  induction entries with
  | nil => rfl
  | cons e rest ih =>
    obtain ⟨k, v⟩ := e
    have hlt : k < key := h (k, v) List.mem_cons_self
    have hnot : ¬ key < k := String.lt_asymm hlt
    have hne : key ≠ k := by
      rintro rfl
      exact String.lt_irrefl _ hlt
    rw [insertEntry, if_neg hnot, if_neg hne,
      ih fun e he => h e (List.mem_cons_of_mem _ he), List.cons_append]

/-- Pairs that are inserted in order stand behind those that are there. -/
theorem entries_foldl_insert (pairs : List (String × String)) (m : Metadata)
    (h : (m.entries ++ pairs).Pairwise fun a b => a.1 < b.1) :
    (pairs.foldl (fun m e => m.insert e.1 e.2) m).entries = m.entries ++ pairs := by
  induction pairs generalizing m with
  | nil => simp
  | cons e pairs ih =>
    have hlast : ∀ d ∈ m.entries, d.1 < e.1 := fun d hd =>
      (List.pairwise_append.mp h).2.2 d hd e List.mem_cons_self
    have hentries : (m.insert e.1 e.2).entries = m.entries ++ [e] :=
      insertEntry_of_forall_lt hlast
    rw [List.foldl_cons, ih _ (by rw [hentries]; simpa using h), hentries, List.append_assoc,
      List.singleton_append]

/-- Pairs in ascending order are put together as they are. -/
theorem ofList_entries (m : Metadata) : ofList m.entries = m := by
  have h : (ofList m.entries).entries = m.entries :=
    entries_foldl_insert m.entries empty (by simpa [empty] using m.sorted)
  cases hm : ofList m.entries
  cases m
  simp_all

/-- Metadata is read from the value that it is written as. -/
theorem ofJson?_toJson (m : Metadata) : ofJson? m.toJson = some m := by
  have hpairs := mapM_map_eq_some (g := pairOfMember?)
    (f := fun e : String × String => (some e.1, Json.ofString e.2)) (fun _ => rfl) m.entries
  simp only [toJson, Json.ofFields, List.map_map, ofJson?, Function.comp_def, hpairs,
    Option.map_some, ofList_entries]

/-- The value of metadata is found again in a printed document. -/
theorem readsBack_toJson (m : Metadata) : m.toJson.ReadsBack := by
  refine Json.readsBack_object fun f hf => ?_
  obtain ⟨e, -, rfl⟩ := List.mem_map.mp hf
  exact Json.readsBack_string e.2

end Metadata

namespace CommentRecord

/-- The number of a line is within its bounds. -/
theorem lineOfJson?_ofNat (line : UInt32) : lineOfJson? (.ofNat line.toNat) = some line := by
  simp [lineOfJson?, Json.ofNat, Json.natBelow?, line.toNat_lt]

/-- The number of an issue is within its bounds. -/
theorem issueOfJson?_ofNat (number : UInt64) :
    issueOfJson? (.ofNat number.toNat) = some (some number) := by
  simp [issueOfJson?, Json.ofNat, Json.natBelow?, number.toNat_lt]

/-- The JSON object of a record gives the record back. -/
theorem ofJson?_toJson (r : CommentRecord) : ofJson? r.toJson = some r := by
  obtain ⟨file, line, text, message, metadata, issueNumber⟩ := r
  cases issueNumber with
  | none =>
    simp [toJson, Json.ofFields, ofJson?, Json.hasTextNames, Json.requiredField, Json.optionalField,
      Json.valuesOf, ofValues?, Json.ofString, Json.text?, lineOfJson?_ofNat,
      Metadata.ofJson?_toJson]
  | some number =>
    simp [toJson, Json.ofFields, ofJson?, Json.hasTextNames, Json.requiredField, Json.optionalField,
      Json.valuesOf, ofValues?, Json.ofString, Json.text?, lineOfJson?_ofNat,
      Metadata.ofJson?_toJson, issueOfJson?_ofNat]

/-- The value of a record is found again in a printed document. -/
theorem readsBack_toJson (r : CommentRecord) : r.toJson.ReadsBack := by
  refine Json.readsBack_object fun f hf => ?_
  simp only [List.cons_append, List.nil_append, List.mem_cons] at hf
  rcases hf with rfl | rfl | rfl | rfl | rfl | hf
  · exact Json.readsBack_string r.file
  · exact Json.readsBack_number r.line.toNat
  · exact Json.readsBack_string r.text
  · exact Json.readsBack_string r.message
  · exact r.metadata.readsBack_toJson
  · cases hissue : r.issueNumber with
    | none => simp [hissue] at hf
    | some number =>
      obtain rfl : f = ("issueNumber", .ofNat number.toNat) := by simpa [hissue] using hf
      exact Json.readsBack_number number.toNat

/-- The JSON object of a record has a member for the number exactly if the record has one. -/
theorem exists_toJson_eq (r : CommentRecord) :
    ∃ members, r.toJson = .object members ∧
      (some "issueNumber" ∈ members.map Prod.fst ↔ r.issueNumber.isSome) := by
  refine ⟨_, rfl, ?_⟩
  cases r.issueNumber <;> simp

end CommentRecord

namespace StateText

/-- The text of a saved list is a document with one item for each record. -/
theorem ofChars?_write (records : List CommentRecord) :
    Json.ofChars? (write records).toList = some (.array (records.map CommentRecord.toJson)) := by
  have hback : (Json.array (records.map CommentRecord.toJson)).ReadsBack := by
    refine Json.readsBack_array fun i hi => ?_
    obtain ⟨r, -, rfl⟩ := List.mem_map.mp hi
    exact r.readsBack_toJson
  rw [write, Json.pretty, String.toList_ofList, Json.ofChars?_print hback]

/-- The text of a saved list gives the list back. -/
theorem read?_write (records : List CommentRecord) : read? (write records) = some records := by
  rw [read?, ofChars?_write]
  exact mapM_map_eq_some CommentRecord.ofJson?_toJson records

end StateText

end TrackedComments

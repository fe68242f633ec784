import Mathlib.Data.List.Nodup
import TrackedComments.Proofs.Store.StateText
import TrackedComments.Proofs.Text.Space

/-!
# Blocks of pairs

A block lists pairs in any order. It reads back as the metadata with exactly these pairs, if no key
and no value holds a character that has a meaning in a block.

## Main results

* `Metadata.ofList_of_perm`: the order of the pairs does not matter.
* `Metadata.readSegment_append_cons`: what a segment gives.
* `Metadata.read_of_joined`: a block is read segment by segment.
* `Metadata.read_blockText`: blocks read back.
-/

namespace TrackedComments

namespace Metadata

/-! ### The order of pairs -/

/-- Entries under different keys are put in place in any order. -/
theorem insertEntry_comm {key other : String} (hne : key ≠ other) (value value' : String)
    (entries : List (String × String)) :
    insertEntry key value (insertEntry other value' entries) =
      insertEntry other value' (insertEntry key value entries) := by
  induction entries with
  | nil =>
    rcases Decidable.em (key < other) with h | h
    · have hnot : ¬ other < key := String.lt_asymm h
      simp [insertEntry, h, hnot, hne.symm]
    · have hlt : other < key := lt_of_not_lt_of_ne h hne
      simp [insertEntry, h, hlt, hne]
  | cons e rest ih =>
    grind [insertEntry, String.lt_asymm, String.lt_trans, lt_of_not_lt_of_ne, String.lt_irrefl]

/-- Pairs with different keys are inserted in any order. -/
theorem insert_comm (m : Metadata) {key other : String} (hne : key ≠ other)
    (value value' : String) :
    (m.insert key value).insert other value' = (m.insert other value').insert key value := by
  simp only [insert, insertEntry_comm hne.symm value' value m.entries]

/-- There is one pair for each key. -/
theorem eq_of_fst_eq (m : Metadata) {e e' : String × String} (he : e ∈ m.entries)
    (he' : e' ∈ m.entries) (h : e.1 = e'.1) : e = e' := by
  have hnodup : (m.entries.map Prod.fst).Nodup := by
    rw [List.Nodup, List.pairwise_map]
    exact m.sorted.imp String.ne_of_lt
  exact List.inj_on_of_nodup_map hnodup he he' h

/-- The pairs of some metadata give it in any order. -/
theorem ofList_of_perm {pairs : List (String × String)} {m : Metadata}
    (h : pairs.Perm m.entries) : ofList pairs = m := by
  have hfold : ofList pairs = ofList m.entries := by
    refine h.foldl_eq' (fun e he e' he' m' => ?_) empty
    by_cases heq : e = e'
    · rw [heq]
    · exact insert_comm m' (fun hkey => heq (eq_of_fst_eq m (h.subset he) (h.subset he') hkey)) _ _
  rw [hfold, ofList_entries]

/-! ### Segments -/

/-- What separates pairs. -/
def isSeparator (c : Char) : Bool := c == ';' || c == ','

variable {before after segment : List Char}

/-- A segment is cut at its first colon, and what stands before and after it is trimmed. -/
theorem readSegment_append_cons (h : ':' ∉ before) (after : List Char) :
    readSegment (before ++ ':' :: after) =
      if (Chars.trim before).isEmpty || (Chars.trim after).isEmpty then none
      else some (String.ofList (Chars.trim before), String.ofList (Chars.trim after)) := by
  have hcolon : ':' ∉ Chars.trimStart before := fun hmem => h (Chars.mem_of_mem_trimStart hmem)
  rw [readSegment, Chars.trim_append_cons (by decide), Chars.splitOnce_append_cons hcolon]
  dsimp only
  rw [Chars.trim_trimStart, Chars.trim_trimEnd]

/-- A segment without a colon gives no pair. -/
theorem readSegment_of_not_mem (h : ':' ∉ segment) : readSegment segment = none := by
  have hall : ∀ c ∈ Chars.trim segment, (c != ':') = true := by
    intro c hc
    have hne : c ≠ ':' := fun heq => h (heq ▸ Chars.mem_of_mem_trim hc)
    simpa using hne
  rw [readSegment, Chars.splitOnce, List.dropWhile_eq_nil_iff.mpr hall]

/-- What a segment gives is what stands trimmed before and after its first colon. -/
theorem exists_of_readSegment {e : String × String} (h : readSegment segment = some e) :
    ∃ before after, segment = before ++ ':' :: after ∧ ':' ∉ before ∧
      Chars.trim before ≠ [] ∧ Chars.trim after ≠ [] ∧
      e = (String.ofList (Chars.trim before), String.ofList (Chars.trim after)) := by
  by_cases hcolon : ':' ∈ segment
  · obtain ⟨before, after, rfl, hbefore⟩ := List.eq_append_cons_of_mem hcolon
    rw [readSegment_append_cons hbefore] at h
    split at h
    · simp at h
    · rename_i hne
      rw [Bool.or_eq_true, List.isEmpty_iff, List.isEmpty_iff, not_or] at hne
      exact ⟨before, after, rfl, hbefore, hne.1, hne.2, (Option.some.inj h).symm⟩
  · rw [readSegment_of_not_mem hcolon] at h
    simp at h

/-- The texts that segments with separators between them can be written as. -/
inductive Joined : List (List Char) → List Char → Prop where
  | nil : Joined [] []
  | last (segment : List Char) : Joined [segment] segment
  | cons {separator : Char} {next text : List Char} {segments : List (List Char)}
      (segment : List Char) : isSeparator separator → Joined (next :: segments) text →
      Joined (segment :: next :: segments) (segment ++ separator :: text)

/-- A block is read segment by segment. -/
theorem read_of_joined {segments : List (List Char)} {block : List Char}
    (h : Joined segments block)
    (hsegments : ∀ segment ∈ segments, ∀ c ∈ segment, isSeparator c = false) :
    read block = ofList (segments.filterMap readSegment) := by
  suffices hpieces : (Chars.splitWhen isSeparator block).filterMap readSegment =
      segments.filterMap readSegment from congrArg ofList hpieces
  induction h with
  | nil => rfl
  | last segment => rw [Chars.splitWhen_of_forall_not (hsegments segment List.mem_cons_self)]
  | cons segment hseparator _ ih =>
    have hfirst := Chars.splitWhen_of_forall_not (hsegments segment List.mem_cons_self)
    rw [Chars.splitWhen_append_cons hseparator, hfirst, List.singleton_append, List.filterMap_cons,
      List.filterMap_cons, ih fun s hs => hsegments s (List.mem_cons_of_mem _ hs)]

/-! ### Blocks -/

/-- The characters that end a pair or a block. -/
def isReserved (c : Char) : Bool := c ∈ [';', ',', '[', ']', '\n']

/-- Whether a text can be a value in a block. -/
structure IsValue (cs : List Char) : Prop where
  ne_nil : cs ≠ []
  trimmed : Chars.trim cs = cs
  unreserved : ∀ c ∈ cs, isReserved c = false

/-- Whether a text can be a key in a block. -/
structure IsKey (cs : List Char) : Prop extends IsValue cs where
  colon : ':' ∉ cs

instance (cs : List Char) : Decidable (IsValue cs) :=
  decidable_of_iff (cs ≠ [] ∧ Chars.trim cs = cs ∧ cs.any isReserved = false)
    ⟨fun ⟨hne, htrim, hc⟩ => ⟨hne, htrim, by simpa using hc⟩,
      fun h => ⟨h.ne_nil, h.trimmed, by simpa using h.unreserved⟩⟩

instance (cs : List Char) : Decidable (IsKey cs) :=
  decidable_of_iff (IsValue cs ∧ ':' ∉ cs) ⟨fun ⟨h, hc⟩ => ⟨h, hc⟩, fun h => ⟨h.toIsValue, h.colon⟩⟩

/-- A pair as it stands in a block. -/
def pairText (e : String × String) : List Char :=
  e.1.toList ++ ':' :: e.2.toList

/-- The inside of a block with some pairs. -/
def blockText (pairs : List (String × String)) : List Char :=
  [';', ' '].intercalate (pairs.map pairText)

theorem blockText_cons_cons (e e' : String × String) (pairs : List (String × String)) :
    blockText (e :: e' :: pairs) = pairText e ++ ';' :: ' ' :: blockText (e' :: pairs) := by
  simp [blockText]

theorem blockText_singleton (e : String × String) : blockText [e] = pairText e := by
  simp [blockText]

variable {e : String × String} {blanks : List Char}

/-- A pair in a block is read back, with any blanks in front of it. -/
theorem readSegment_pairText (hkey : IsKey e.1.toList) (hvalue : IsValue e.2.toList)
    (hblanks : Chars.isBlank blanks) : readSegment (blanks ++ pairText e) = some e := by
  have hcolon : ':' ∉ blanks ++ e.1.toList := by
    simp [Chars.not_mem_of_isBlank hblanks (by decide : isSpace ':' = false), hkey.colon]
  rw [pairText, ← List.append_assoc, readSegment_append_cons hcolon,
    Chars.trim_append_of_isBlank_left hblanks, hkey.trimmed, hvalue.trimmed]
  simp [hkey.ne_nil, hvalue.ne_nil]

/-- A pair is written without reserved characters. -/
theorem isReserved_of_mem_pairText (hkey : IsKey e.1.toList) (hvalue : IsValue e.2.toList) :
    ∀ c ∈ pairText e, isReserved c = false := by
  intro c hc
  rcases List.mem_append.mp hc with hc | hc
  · exact hkey.unreserved c hc
  · rcases List.mem_cons.mp hc with rfl | hc
    · decide
    · exact hvalue.unreserved c hc

/-- A character that is not reserved separates no segments. -/
theorem isSeparator_of_isReserved {c : Char} (h : isReserved c = false) :
    isSeparator c = false := by
  simp_all [isReserved, isSeparator]

/-- A block is its pairs with `;` between them and a blank before each but the first one. -/
theorem joined_blockText (blanks : List Char) (e : String × String)
    (pairs : List (String × String)) :
    Joined ((blanks ++ pairText e) :: pairs.map fun e => ' ' :: pairText e)
      (blanks ++ blockText (e :: pairs)) := by
  induction pairs generalizing blanks e with
  | nil => exact blockText_singleton e ▸ .last _
  | cons e' pairs ih =>
    rw [blockText_cons_cons, ← List.append_assoc]
    exact .cons _ (by decide) (ih [' '] e')

/-- A block reads back, in whatever order it lists the pairs. -/
theorem read_blockText {pairs : List (String × String)} {m : Metadata} (h : pairs.Perm m.entries)
    (hne : pairs ≠ []) (hpairs : ∀ e ∈ pairs, IsKey e.1.toList ∧ IsValue e.2.toList) :
    read (blockText pairs) = m := by
  obtain ⟨e, rest, rfl⟩ := List.exists_cons_of_ne_nil hne
  have hread {blanks : List Char} (hblanks : Chars.isBlank blanks) :
      ∀ e' ∈ e :: rest, readSegment (blanks ++ pairText e') = some e' := fun e' he' =>
    readSegment_pairText (hpairs e' he').1 (hpairs e' he').2 hblanks
  have hsep : ∀ e' ∈ e :: rest, ∀ c ∈ ' ' :: pairText e', isSeparator c = false := by
    intro e' he' c hc
    rcases List.mem_cons.mp hc with rfl | hc
    · decide
    · exact isSeparator_of_isReserved
        (isReserved_of_mem_pairText (hpairs e' he').1 (hpairs e' he').2 c hc)
  have hfirst := hread (rfl : Chars.isBlank []) e List.mem_cons_self
  have hrest : (rest.map fun e => ' ' :: pairText e).filterMap readSegment = rest := by
    rw [List.filterMap_map]
    exact (List.filterMap_congr fun e' he' =>
      hread (rfl : Chars.isBlank [' ']) e' (List.mem_cons_of_mem e he')).trans List.filterMap_some
  have hjoined : Joined _ (blockText (e :: rest)) := joined_blockText [] e rest
  rw [read_of_joined hjoined, List.filterMap_cons_some hfirst, hrest, ofList_of_perm h]
  refine List.forall_mem_cons.mpr ⟨fun c hc => ?_, List.forall_mem_map.mpr fun e' he' => ?_⟩
  · exact hsep e List.mem_cons_self c (List.mem_cons_of_mem _ hc)
  · exact hsep e' (List.mem_cons_of_mem e he')

end Metadata

end TrackedComments

import TrackedComments.Proofs.Metadata
import TrackedComments.Tracker.Draft

/-!
# Labels as blocks

The labels of an issue and the block of a comment are two ways to write the same pairs. A block has
more freedom than a label: separators of two kinds, blanks around separators and colons, and
segments that are no pairs at all. None of this freedom shows in what is read, and what is read can
always be written as labels again.

## Main results

* `Metadata.wellFormed_read`: whatever is read can stand in a block.
* `Metadata.Spaces.readSegment_eq`: however a label is written, its pair is read.
* `Metadata.read_joined_labels`: labels in a block are read as the pairs that they stand for.
-/

namespace TrackedComments.Metadata

variable {segment : List Char} {e : String × String}

/-! ### Well-formed metadata -/

/-- Whether a text can be read as a value. -/
structure IsField (cs : List Char) : Prop where
  ne_nil : cs ≠ []
  trimmed : Chars.trim cs = cs
  unseparated : ∀ c ∈ cs, isSeparator c = false

/-- A check of all characters finds whether one of them is a separator. -/
theorem all_not_isSeparator_iff {cs : List Char} :
    cs.all (fun c => !isSeparator c) ↔ ∀ c ∈ cs, isSeparator c = false := by
  simp

instance (cs : List Char) : Decidable (IsField cs) :=
  decidable_of_iff (cs ≠ [] ∧ Chars.trim cs = cs ∧ cs.all fun c => !isSeparator c)
    ⟨fun ⟨hne, htrim, hall⟩ => ⟨hne, htrim, all_not_isSeparator_iff.mp hall⟩,
      fun h => ⟨h.ne_nil, h.trimmed, all_not_isSeparator_iff.mpr h.unseparated⟩⟩

/-- Whether metadata can stand in a block: no key and no value is empty, begins or ends with a blank
or holds a separator, and no key holds a colon. -/
structure WellFormed (m : Metadata) : Prop where
  keys : ∀ e ∈ m.entries, IsField e.1.toList ∧ ':' ∉ e.1.toList
  values : ∀ e ∈ m.entries, IsField e.2.toList

/-- What is left of a text without separators is a field, if anything is. -/
theorem isField_trim {cs : List Char} (hne : Chars.trim cs ≠ [])
    (h : ∀ c ∈ cs, isSeparator c = false) : IsField (Chars.trim cs) :=
  ⟨hne, Chars.trim_trim cs, fun c hc => h c (Chars.mem_of_mem_trim hc)⟩

/-- The pairs of metadata are among those of which it is made. -/
theorem mem_of_mem_ofList {pairs : List (String × String)} (h : e ∈ (ofList pairs).entries) :
    e ∈ pairs := by
  suffices hfold : ∀ m : Metadata, e ∈ (pairs.foldl (fun m e => m.insert e.1 e.2) m).entries →
      e ∈ pairs ∨ e ∈ m.entries from
    (hfold empty h).resolve_right List.not_mem_nil
  clear h
  induction pairs with
  | nil => exact fun m hm => .inr hm
  | cons p pairs ih =>
    intro m hm
    rcases ih _ hm with hmem | hmem
    · exact .inl (List.mem_cons_of_mem p hmem)
    · rcases mem_insertEntry hmem with rfl | hmem
      · exact .inl List.mem_cons_self
      · exact .inr hmem

/-- Whatever is read is well-formed. -/
theorem wellFormed_read (block : List Char) : (read block).WellFormed := by
  have hentry : ∀ e ∈ (read block).entries,
      (IsField e.1.toList ∧ ':' ∉ e.1.toList) ∧ IsField e.2.toList := by
    intro e he
    obtain ⟨segment, hsegment, hread⟩ := List.mem_filterMap.mp (mem_of_mem_ofList he)
    have hsep := Chars.isSep_of_mem_splitWhen hsegment
    obtain ⟨before, after, rfl, hcolon, hkey, hvalue, rfl⟩ := exists_of_readSegment hread
    rw [String.toList_ofList, String.toList_ofList]
    refine ⟨⟨isField_trim hkey fun c hc => ?_, fun hmem => hcolon (Chars.mem_of_mem_trim hmem)⟩,
      isField_trim hvalue fun c hc => ?_⟩
    · exact hsep c (List.mem_append_left _ hc)
    · exact hsep c (List.mem_append_right _ (List.mem_cons_of_mem _ hc))
  exact ⟨fun e he => (hentry e he).1, fun e he => (hentry e he).2⟩

/-! ### Labels in a block -/

/-- How a label may be written: with blanks around it and around its first colon. -/
inductive Spaces : List Char → List Char → Prop where
  | mk {key value a b c d : List Char} : ':' ∉ key → Chars.isBlank a → Chars.isBlank b →
      Chars.isBlank c → Chars.isBlank d →
      Spaces (key ++ ':' :: value) (a ++ key ++ b ++ ':' :: (c ++ value ++ d))

/-- Whether a segment gives no pair: it has no colon, or nothing but blanks before or after its
first one. -/
inductive GivesNothing : List Char → Prop where
  | noColon {segment : List Char} : ':' ∉ segment → GivesNothing segment
  | noKey {before after : List Char} : ':' ∉ before → Chars.isBlank before →
      GivesNothing (before ++ ':' :: after)
  | noValue {before after : List Char} : ':' ∉ before → Chars.isBlank after →
      GivesNothing (before ++ ':' :: after)

/-- The segments that labels can be written as, with any number of segments that give nothing
before, between and after them. -/
inductive Segments : List String → List (List Char) → Prop where
  | nil : Segments [] []
  | label {label : String} {segment : List Char} {labels : List String}
      {segments : List (List Char)} : Spaces label.toList segment → Segments labels segments →
      Segments (label :: labels) (segment :: segments)
  | filler {segment : List Char} {labels : List String} {segments : List (List Char)} :
      GivesNothing segment → (∀ c ∈ segment, isSeparator c = false) → Segments labels segments →
      Segments labels (segment :: segments)

/-- A blank separates no segments. -/
theorem isSeparator_of_isSpace {c : Char} (h : isSpace c) : isSeparator c = false := by
  by_contra hsep
  rw [Bool.not_eq_false, isSeparator, Bool.or_eq_true, beq_iff_eq, beq_iff_eq] at hsep
  rcases hsep with rfl | rfl <;> exact absurd h (by decide)

/-- A segment that gives nothing is passed over. -/
theorem GivesNothing.readSegment_eq (h : GivesNothing segment) : readSegment segment = none := by
  cases h with
  | noColon hcolon => exact readSegment_of_not_mem hcolon
  | noKey hcolon hblank => simp [readSegment_append_cons hcolon, Chars.trim_eq_nil_iff.mpr hblank]
  | noValue hcolon hblank =>
    simp [readSegment_append_cons hcolon, Chars.trim_eq_nil_iff.mpr hblank]

/-- A label is its pair as it is written. -/
theorem toList_label (e : String × String) : (IssueDraft.label e).toList = pairText e := by
  simp [IssueDraft.label, pairText]

/-- Blanks around a field are no part of it. -/
theorem IsField.trim_eq {cs blanks blanks' : List Char} (h : IsField cs)
    (hblanks : Chars.isBlank blanks) (hblanks' : Chars.isBlank blanks') :
    Chars.trim (blanks ++ cs ++ blanks') = cs := by
  rw [Chars.trim_append_of_isBlank _ hblanks', Chars.trim_append_of_isBlank_left hblanks, h.trimmed]

/-- However a label is written, its pair is read. -/
theorem Spaces.readSegment_eq (h : Spaces (pairText e) segment) (hkey : IsField e.1.toList)
    (hcolon : ':' ∉ e.1.toList) (hvalue : IsField e.2.toList) : readSegment segment = some e := by
  generalize hlabel : pairText e = label at h
  cases h with
  | @mk key value a b c d hkey' ha hb hc hd =>
    -- the label has one first colon, so it is cut where the pair is
    have hcut := Chars.splitOnce_append_cons hcolon e.2.toList
    rw [← pairText, hlabel, Chars.splitOnce_append_cons hkey'] at hcut
    obtain ⟨rfl, rfl⟩ := Prod.mk.inj (Option.some.inj hcut)
    have hnot : ':' ∉ a ++ e.1.toList ++ b := by
      have hspace : isSpace ':' = false := by decide
      simp [Chars.not_mem_of_isBlank ha hspace, Chars.not_mem_of_isBlank hb hspace, hcolon]
    rw [readSegment_append_cons hnot, hkey.trim_eq ha hb, hvalue.trim_eq hc hd]
    simp [hkey.ne_nil, hvalue.ne_nil]

/-- A label with blanks in it holds no separator. -/
theorem Spaces.unseparated (h : Spaces (pairText e) segment) (hkey : IsField e.1.toList)
    (hvalue : IsField e.2.toList) : ∀ c ∈ segment, isSeparator c = false := by
  have hlabel : ∀ c ∈ pairText e, isSeparator c = false := by
    simp only [pairText, List.mem_append, List.mem_cons]
    rintro c (hc | rfl | hc)
    · exact hkey.unseparated c hc
    · decide
    · exact hvalue.unseparated c hc
  have hblank {cs : List Char} (h : Chars.isBlank cs) : ∀ c ∈ cs, isSeparator c = false :=
    fun c hc => isSeparator_of_isSpace (List.all_eq_true.mp h c hc)
  generalize pairText e = label at h hlabel
  cases h with
  | mk _ ha hb hc hd =>
    simp only [List.mem_append, List.mem_cons, or_imp, forall_and] at hlabel ⊢
    exact ⟨⟨⟨hblank ha, hlabel.1⟩, hblank hb⟩, hlabel.2.1, ⟨hblank hc, hlabel.2.2⟩, hblank hd⟩

/-- The segments that labels are written as give the pairs of the labels, one by one. -/
theorem Segments.filterMap_readSegment {entries : List (String × String)}
    {segments : List (List Char)} (h : Segments (entries.map IssueDraft.label) segments)
    (hentries : ∀ e ∈ entries, (IsField e.1.toList ∧ ':' ∉ e.1.toList) ∧ IsField e.2.toList) :
    segments.filterMap readSegment = entries ∧
      ∀ segment ∈ segments, ∀ c ∈ segment, isSeparator c = false := by
  generalize hlabels : entries.map IssueDraft.label = labels at h
  induction h generalizing entries with
  | nil =>
    obtain rfl := List.map_eq_nil_iff.mp hlabels
    exact ⟨rfl, nofun⟩
  | label hspaces _ ih =>
    obtain ⟨e, rest, rfl, rfl, rfl⟩ := List.map_eq_cons_iff.mp hlabels
    obtain ⟨⟨hkey, hcolon⟩, hvalue⟩ := hentries e List.mem_cons_self
    obtain ⟨hread, hsep⟩ := ih (fun e he => hentries e (List.mem_cons_of_mem _ he)) rfl
    rw [toList_label] at hspaces
    rw [List.filterMap_cons_some (hspaces.readSegment_eq hkey hcolon hvalue), hread]
    exact ⟨rfl, List.forall_mem_cons.mpr ⟨hspaces.unseparated hkey hvalue, hsep⟩⟩
  | filler hnothing hfiller _ ih =>
    obtain ⟨hread, hsep⟩ := ih hentries hlabels
    rw [List.filterMap_cons_none hnothing.readSegment_eq, hread]
    exact ⟨rfl, List.forall_mem_cons.mpr ⟨hfiller, hsep⟩⟩

/-- Whatever is read is well-formed, and well-formed metadata is read back from the labels of an
issue for a comment that has it. The labels may be joined by separators of both kinds, with blanks
around the separators and the colons and with segments between them that give nothing. -/
theorem read_joined_labels :
    (∀ block : List Char, (read block).WellFormed) ∧
      ∀ (r : CommentRecord) (segments : List (List Char)) (block : List Char),
        r.metadata.WellFormed → Segments (IssueDraft.ofComment r).labels segments →
        Joined segments block → read block = r.metadata := by
  refine ⟨wellFormed_read, fun r segments block hwell hsegments hjoined => ?_⟩
  obtain ⟨hread, hsep⟩ := hsegments.filterMap_readSegment
    fun e he => ⟨hwell.keys e he, hwell.values e he⟩
  rw [read_of_joined hjoined hsep, hread, ofList_entries]

/-- A comment with a value that holds colons. -/
def linkedPage : CommentRecord :=
  { file := "a.ts", line := 1, text := "// ERROR: x", message := "x"
    metadata := ⟨[("link", "https://example.com/a"), ("sev", "alta")], by decide +kernel⟩ }

/-- Its labels with all that may stand around them. -/
theorem read_joined_labels_linkedPage :
    linkedPage.metadata.WellFormed ∧
      (∃ segments, Segments (IssueDraft.ofComment linkedPage).labels segments ∧
        Joined segments
          " link :\thttps://example.com/a ;;plain, :nokey;sev:alta\u3000,novalue:".toList) ∧
      read " link :\thttps://example.com/a ;;plain, :nokey;sev:alta\u3000,novalue:".toList =
        linkedPage.metadata := by
  have hwell : linkedPage.metadata.WellFormed := ⟨by decide +kernel, by decide +kernel⟩
  have hlink : Spaces ("link".toList ++ ':' :: "https://example.com/a".toList)
      ([' '] ++ "link".toList ++ [' '] ++ ':' ::
        (['\t'] ++ "https://example.com/a".toList ++ [' '])) :=
    .mk (by decide) (by decide) (by decide) (by decide) (by decide)
  have hsev : Spaces ("sev".toList ++ ':' :: "alta".toList)
      ([] ++ "sev".toList ++ [] ++ ':' :: ([] ++ "alta".toList ++ ['\u3000'])) :=
    .mk (by decide) (by decide) (by decide) (by decide) (by decide)
  have hempty : GivesNothing [] := .noColon (by decide)
  have hplain : GivesNothing "plain".toList := .noColon (by decide)
  have hkey : GivesNothing ([' '] ++ ':' :: "nokey".toList) := .noKey (by decide) (by decide)
  have hvalue : GivesNothing ("novalue".toList ++ ':' :: []) := .noValue (by decide) (by decide)
  have hsegments : Segments (IssueDraft.ofComment linkedPage).labels _ :=
    .label hlink (.filler hempty (all_not_isSeparator_iff.mp (by decide))
      (.filler hplain (all_not_isSeparator_iff.mp (by decide))
        (.filler hkey (all_not_isSeparator_iff.mp (by decide))
          (.label hsev (.filler hvalue (all_not_isSeparator_iff.mp (by decide)) .nil)))))
  have hsemicolon : isSeparator ';' := by decide
  have hcomma : isSeparator ',' := by decide
  have hjoined (a b c d e f : List Char) := Joined.cons a hsemicolon (.cons b hsemicolon
    (.cons c hcomma (.cons d hsemicolon (.cons e hcomma (.last f)))))
  exact ⟨hwell, ⟨_, hsegments, hjoined _ _ _ _ _ _⟩,
    read_joined_labels.2 linkedPage _ _ hwell hsegments (hjoined _ _ _ _ _ _)⟩

end TrackedComments.Metadata

import TrackedComments.Proofs.Marker.Stripping
import TrackedComments.Proofs.Record
import TrackedComments.Proofs.Text.Lines
import TrackedComments.WriteBack

/-!
# The records of a content

Each line has at most one record, which carries the number of the line and reads as the line does
when it is looked up again. A marker that is added to a line changes the text and the number of its
record, and that record alone.

## Main results

* `ScanPattern.mem_scanContent`: the records of a content are those of its lines.
* `ScanPattern.nodup_identity_scanContent`: they have pairwise distinct identities.
* `ScanPattern.issueNumber_of_mem`: the number of a fresh record is that of the marker in its text.
* `ScanPattern.lineAt_of_mem`: a record reads as its line.
* `ScanPattern.scanContent_of_mark`: what a marker changes.
-/

namespace TrackedComments

open CommentRecord

/-! ### Lines by number -/

/-- A line loses at most the carriage return at its end. -/
theorem dropCarriageReturn_eq_or (line : List Char) :
    dropCarriageReturn line = line ∨ line = dropCarriageReturn line ++ ['\r'] := by
  unfold dropCarriageReturn
  split
  · rename_i h
    refine .inr ?_
    obtain ⟨init, rfl⟩ := List.getLast?_eq_some_iff.mp h
    simp
  · exact .inl rfl

/-- A carriage return is a blank. -/
theorem isSpace_carriageReturn : ∀ c ∈ ['\r'], isSpace c := by
  intro c hc
  rw [List.mem_singleton.mp hc]
  decide

/-- Trimming the end of a line takes off its carriage return anyway. -/
theorem trimEnd_dropCarriageReturn (line : List Char) :
    Chars.trimEnd (dropCarriageReturn line) = Chars.trimEnd line := by
  rcases dropCarriageReturn_eq_or line with h | h
  · rw [h]
  · conv_rhs => rw [h, Chars.trimEnd_append_of_isSpace _ isSpace_carriageReturn]

/-- Trimming a line takes off its carriage return anyway. -/
theorem trim_dropCarriageReturn (line : List Char) :
    Chars.trim (dropCarriageReturn line) = Chars.trim line := by
  rw [Chars.trim, trimEnd_dropCarriageReturn, ← Chars.trim]

/-- A carriage return at the end of a line has no part in its number. -/
theorem find?_dropCarriageReturn (line : List Char) :
    Marker.find? (dropCarriageReturn line) = Marker.find? line := by
  rw [← Marker.find?_trimEnd, trimEnd_dropCarriageReturn, Marker.find?_trimEnd]

/-- Taking off the markers at the end of a line takes off its carriage return anyway. -/
theorem stripTrailing_dropCarriageReturn (line : List Char) :
    Marker.stripTrailing (dropCarriageReturn line) = Marker.stripTrailing line := by
  rw [← Marker.stripTrailing_trimEnd, trimEnd_dropCarriageReturn, Marker.stripTrailing_trimEnd]

/-- Lines are numbered from one. -/
theorem WriteBack.lineAt_eq_ok_iff {ls : List Line} {line : UInt32} {l : Line} :
    WriteBack.lineAt ls line = .ok l ↔ ∃ index, line.toNat = index + 1 ∧ ls[index]? = some l := by
  unfold WriteBack.lineAt
  split
  · rename_i hzero
    simp [hzero]
  · rename_i index hindex
    rw [hindex]
    constructor
    · intro h
      split at h
      · rename_i hl
        exact ⟨index, rfl, Except.ok.inj h ▸ hl⟩
      · simp at h
    · rintro ⟨index', heq, hl⟩
      obtain rfl : index = index' := by omega
      rw [hl]

/-- A line with a marker at its end ends in the bracket of the marker. -/
theorem WriteBack.getLast?_mark (l : Line) (number : UInt64) :
    (WriteBack.mark l number).body.getLast? = some ']' := by
  have hconcat : (WriteBack.mark l number).body =
      (l.body ++ ' ' :: (Marker.opening ++ number.toNat.repr.toList)) ++ [']'] := by
    simp [WriteBack.mark, Marker.format]
  rw [hconcat, List.getLast?_concat]

namespace ScanPattern

/-! ### The record of a line -/

/-- The number that is reported for a line is that of the line. -/
theorem issueNumber_of_scanLine {p : ScanPattern} {line : List Char} {found : LineMatch}
    (h : p.scanLine line = some found) : found.issueNumber = Marker.find? line := by
  obtain ⟨groups, -, rfl⟩ := Option.map_eq_some_iff.mp h
  exact find?_dropCarriageReturn line

/-- The record of a line has the number of the line, its trimmed text and the number of its marker.
-/
theorem scanNumbered_eq_some {p : ScanPattern} {file : String} {index : Nat} {line : List Char}
    {r : CommentRecord} (h : p.scanNumbered file index line = some r) :
    r.file = file ∧ r.line.toNat = index + 1 ∧ r.text = String.ofList (Chars.trim line) ∧
      r.issueNumber = Marker.find? line := by
  unfold scanNumbered at h
  split at h
  · simp at h
  · rename_i found hscan
    split at h
    · rename_i hlt
      obtain rfl := Option.some.inj h
      exact ⟨rfl, UInt32.toNat_ofNat_of_lt hlt,
        congrArg String.ofList (trim_dropCarriageReturn line), issueNumber_of_scanLine hscan⟩
    · simp at h

/-- A marker that is added to a line changes the text and the number of its record. -/
theorem scanNumbered_mark (p : ScanPattern) (file : String) (index : Nat) {l : Line}
    (h : Marker.isOpenedIn l.body = false) (number : UInt64) :
    p.scanNumbered file index (WriteBack.mark l number).body =
      (p.scanNumbered file index l.body).map fun r =>
        { r with
          text := String.ofList (Chars.trim (WriteBack.mark l number).body)
          issueNumber := if number = 0 then none else some number } := by
  have hbody : (WriteBack.mark l number).body = l.body ++ ' ' :: Marker.format number := rfl
  have hline : dropCarriageReturn (WriteBack.mark l number).body =
      (WriteBack.mark l number).body := by
    rw [dropCarriageReturn, if_neg]
    simp [WriteBack.getLast?_mark]
  have hstrip : Marker.stripTrailing (WriteBack.mark l number).body =
      Marker.stripTrailing (dropCarriageReturn l.body) := by
    rw [stripTrailing_dropCarriageReturn, hbody, Marker.stripTrailing_append_format]
  have hnumber : Marker.find? (WriteBack.mark l number).body =
      if number = 0 then none else some number := by
    rw [hbody, Marker.find?_append_format h]
  simp only [scanNumbered, scanLine, hline, hstrip, hnumber]
  cases p.captures (Marker.stripTrailing (dropCarriageReturn l.body)) with
  | none => rfl
  | some groups =>
    simp only [Option.map_some]
    split <;> rfl

/-! ### The records of all lines -/

/-- The records of a content are those of its lines. -/
theorem mem_scanContent {p : ScanPattern} {file content : String} {r : CommentRecord} :
    r ∈ p.scanContent file content ↔
      ∃ index l, (lines content.toList)[index]? = some l ∧
        p.scanNumbered file index l.body = some r := by
  simp only [scanContent, List.mem_filterMap, Prod.exists, List.mem_zipIdx_iff_getElem?]
  exact ⟨fun ⟨l, index, hl, hr⟩ => ⟨index, l, hl, hr⟩, fun ⟨index, l, hl, hr⟩ => ⟨l, index, hl, hr⟩⟩

/-- The records of a content are in its file. -/
theorem file_of_mem {p : ScanPattern} {file content : String} {r : CommentRecord}
    (h : r ∈ p.scanContent file content) : r.file = file := by
  obtain ⟨_, _, -, hr⟩ := mem_scanContent.mp h
  exact (scanNumbered_eq_some hr).1

/-- The number of a fresh record is that of the marker in its text. -/
theorem issueNumber_of_mem {p : ScanPattern} {file content : String} {r : CommentRecord}
    (h : r ∈ p.scanContent file content) : r.issueNumber = Marker.find? r.text.toList := by
  obtain ⟨_, _, -, hr⟩ := mem_scanContent.mp h
  obtain ⟨-, -, htext, hnumber⟩ := scanNumbered_eq_some hr
  rw [hnumber, htext, String.toList_ofList, Marker.find?_trim]

/-- A record reads as its line. -/
theorem lineAt_of_mem {p : ScanPattern} {file content : String} {r : CommentRecord}
    (h : r ∈ p.scanContent file content) :
    ∃ l, WriteBack.lineAt (lines content.toList) r.line = .ok l ∧
      r.text = String.ofList (Chars.trim l.body) := by
  obtain ⟨index, l, hl, hr⟩ := mem_scanContent.mp h
  obtain ⟨-, hline, htext, -⟩ := scanNumbered_eq_some hr
  exact ⟨l, WriteBack.lineAt_eq_ok_iff.mpr ⟨index, hline, hl⟩, htext⟩

/-- A line has one record at most. -/
theorem scanContent_eq_of_line_eq {p : ScanPattern} {file content : String}
    {r r' : CommentRecord} (h : r ∈ p.scanContent file content)
    (h' : r' ∈ p.scanContent file content) (hline : r.line = r'.line) : r = r' := by
  obtain ⟨index, l, hl, hr⟩ := mem_scanContent.mp h
  obtain ⟨index', l', hl', hr'⟩ := mem_scanContent.mp h'
  have hindex := (scanNumbered_eq_some hr).2.1
  have hindex' := (scanNumbered_eq_some hr').2.1
  obtain rfl : index = index' := by
    rw [hline] at hindex
    omega
  obtain rfl : l = l' := Option.some.inj (hl.symm.trans hl')
  exact Option.some.inj (hr.symm.trans hr')

/-- The lines of the records ascend. -/
theorem pairwise_line_scanContent (p : ScanPattern) (file content : String) :
    (p.scanContent file content).Pairwise fun r r' => r.line < r'.line := by
  rw [scanContent, List.pairwise_filterMap]
  have hindices : ((lines content.toList).zipIdx).Pairwise fun e e' => e.2 < e'.2 := by
    have hrange := List.pairwise_lt_range' (s := 0) (n := (lines content.toList).length)
    rw [← List.zipIdx_map_snd, List.pairwise_map] at hrange
    exact hrange
  refine hindices.imp fun hlt r hr r' hr' => ?_
  have hline := (scanNumbered_eq_some hr).2.1
  have hline' := (scanNumbered_eq_some hr').2.1
  rw [UInt32.lt_iff_toNat_lt]
  omega

/-- The records have pairwise distinct identities. -/
theorem nodup_identity_scanContent (p : ScanPattern) (file content : String) :
    ((p.scanContent file content).map identity).Nodup := by
  rw [List.Nodup, List.pairwise_map]
  refine (pairwise_line_scanContent p file content).imp fun hlt heq => ?_
  have hline := congrArg Prod.snd heq
  exact absurd hline (UInt32.ne_of_lt hlt)

/-! ### Adding a marker -/

/-- Items from which nothing comes that changes leave the list as it is. -/
theorem map_filterMap_zipIdx {α β : Type} {g : α × Nat → Option β} {f : β → β} (items : List α)
    (start : Nat) (hkeep : ∀ e r, start ≤ e.2 → g e = some r → f r = r) :
    ((items.zipIdx start).filterMap g).map f = (items.zipIdx start).filterMap g := by
  conv_rhs => rw [← List.map_id ((items.zipIdx start).filterMap g)]
  refine List.map_congr_left fun r hr => ?_
  obtain ⟨e, he, hg⟩ := List.mem_filterMap.mp hr
  exact hkeep e r (List.le_snd_of_mem_zipIdx he) hg

/-- Setting an item of a numbered list changes what comes of this item alone. -/
theorem filterMap_zipIdx_set {α β : Type} {g : α × Nat → Option β} {f : β → β} {a b : α}
    {items : List α} {index start place : Nat} (hplace : place = start + index)
    (ha : items[index]? = some a) (hset : g (b, place) = (g (a, place)).map f)
    (hkeep : ∀ e r, e.2 ≠ place → g e = some r → f r = r) :
    ((items.set index b).zipIdx start).filterMap g = ((items.zipIdx start).filterMap g).map f := by
  induction items generalizing index start with
  | nil => simp at ha
  | cons c rest ih =>
    cases index with
    | zero =>
      obtain rfl : c = a := by simpa using ha
      obtain rfl : place = start := hplace
      have hrest := map_filterMap_zipIdx (f := f) rest (place + 1)
        fun e r hle hg => hkeep e r (by omega) hg
      rw [List.set_cons_zero, List.zipIdx_cons, List.zipIdx_cons, List.filterMap_cons,
        List.filterMap_cons, hset]
      cases g (c, place) with
      | none => simpa using hrest.symm
      | some r => simpa using hrest.symm
    | succ index =>
      have hrest : ((rest.set index b).zipIdx (start + 1)).filterMap g =
          ((rest.zipIdx (start + 1)).filterMap g).map f := ih (by omega) (by simpa using ha)
      rw [List.set_cons_succ, List.zipIdx_cons, List.zipIdx_cons, List.filterMap_cons,
        List.filterMap_cons]
      cases hg : g (c, start) with
      | none => simpa using hrest
      | some r =>
        have hr : f r = r := hkeep (c, start) r (by simp; omega) hg
        simpa [hr] using hrest

/-- A marker that is added to a line changes the record of the line, and that record alone. -/
theorem scanContent_of_mark (p : ScanPattern) (file : String) {content updated : String}
    {line : UInt32} {l : Line} {number : UInt64}
    (hl : WriteBack.lineAt (lines content.toList) line = .ok l)
    (hopen : Marker.isOpenedIn l.body = false)
    (hupdated : lines updated.toList =
      (lines content.toList).set (line.toNat - 1) (WriteBack.mark l number)) :
    p.scanContent file updated =
      (p.scanContent file content).map fun r =>
        if r.line = line then
          { r with
            text := String.ofList (Chars.trim (WriteBack.mark l number).body)
            issueNumber := if number = 0 then none else some number }
        else r := by
  obtain ⟨index, hline, hindex⟩ := WriteBack.lineAt_eq_ok_iff.mp hl
  rw [hline, Nat.add_sub_cancel] at hupdated
  rw [scanContent, scanContent, hupdated]
  refine filterMap_zipIdx_set (Nat.zero_add index).symm hindex ?_ ?_
  · dsimp only
    rw [scanNumbered_mark p file index hopen]
    refine Option.map_congr fun r hr => ?_
    have hr := (scanNumbered_eq_some hr).2.1
    have heq : r.line = line := UInt32.toNat_inj.mp (hr.trans hline.symm)
    rw [if_pos heq]
  · rintro ⟨l', i⟩ r hne hr
    have hr := (scanNumbered_eq_some hr).2.1
    refine if_neg fun heq => hne ?_
    rw [heq, hline] at hr
    dsimp only
    omega

end ScanPattern

end TrackedComments

import Mathlib.Logic.Function.Basic
import Mathlib.Tactic.SplitIfs
import TrackedComments.Glob.Basic

/-!
# Characters in the bytes of a text

A character that takes more than one byte is made of bytes above 127, so a byte below 128 is a
character of its own wherever it occurs. The bytes of a text can be cut there as the text is cut at
the character.

## Main results

* `utf8Bytes_injective`: no two texts have the same bytes.
* `exists_of_utf8Bytes_eq`: the cut of a text at a character of one byte.
* `utf8Bytes_cons_suffix_iff`: a text that begins with such a character and ends another text in
  bytes.
-/

namespace TrackedComments

variable {cs ds : List Char} {c : Char} {b : UInt8} {front back : List UInt8}

theorem utf8Bytes_cons (c : Char) (cs : List Char) :
    utf8Bytes (c :: cs) = String.utf8EncodeChar c ++ utf8Bytes cs :=
  List.flatMap_cons

theorem utf8Bytes_append (cs ds : List Char) :
    utf8Bytes (cs ++ ds) = utf8Bytes cs ++ utf8Bytes ds :=
  List.flatMap_append

/-- An end of a text is stored as an end of its bytes. -/
theorem utf8Bytes_suffix (h : cs <:+ ds) : utf8Bytes cs <:+ utf8Bytes ds := by
  obtain ⟨before, rfl⟩ := h
  exact ⟨utf8Bytes before, (utf8Bytes_append before cs).symm⟩

/-- No two texts have the same bytes. -/
theorem utf8Bytes_injective : Function.Injective utf8Bytes := by
  intro cs ds h
  refine String.ofList_inj.mp (String.toByteArray_inj.mp ?_)
  rw [String.toByteArray_ofList, String.toByteArray_ofList]
  exact congrArg List.toByteArray h

/-- Different characters are stored differently. -/
theorem utf8EncodeChar_injective : Function.Injective String.utf8EncodeChar := by
  intro c d h
  have hbytes : utf8Bytes [c] = utf8Bytes [d] := by rw [utf8Bytes_cons, utf8Bytes_cons, h]
  exact List.singleton_inj.mp (utf8Bytes_injective hbytes)

/-- A byte from 128 on is none of ASCII. -/
theorem not_ofNat_lt {n : Nat} (h : 128 ≤ n) (hn : n < 256) : ¬ UInt8.ofNat n < 0x80 := by
  rw [UInt8.lt_iff_toNat_lt, UInt8.toNat_ofNat_of_lt' hn]
  exact Nat.not_lt.mpr h

/-- A byte below 128 is a character of its own. -/
theorem utf8EncodeChar_of_mem (h : b ∈ String.utf8EncodeChar c) (hb : b < 0x80) :
    String.utf8EncodeChar c = [b] := by
  rw [String.utf8EncodeChar] at h ⊢
  split_ifs at h ⊢
  · rw [List.mem_singleton.mp h]
  -- the bytes of a longer character are all above 127
  all_goals
    simp only [List.mem_cons, List.not_mem_nil, or_false] at h
    refine absurd hb ?_
  · rcases h with rfl | rfl <;> exact not_ofNat_lt (by omega) (by omega)
  · rcases h with rfl | rfl | rfl <;> exact not_ofNat_lt (by omega) (by omega)
  · rcases h with rfl | rfl | rfl | rfl <;> exact not_ofNat_lt (by omega) (by omega)

/-- The cut of a text at a character of one byte. -/
theorem exists_of_utf8Bytes_eq (hc : String.utf8EncodeChar c = [b]) (hb : b < 0x80)
    (h : utf8Bytes cs = front ++ b :: back) :
    ∃ before after, cs = before ++ c :: after ∧ utf8Bytes before = front ∧
      utf8Bytes after = back := by
  induction cs generalizing front with
  | nil => simp [utf8Bytes] at h
  | cons d cs ih =>
    rw [utf8Bytes_cons] at h
    rcases List.append_eq_append_iff.mp h with ⟨rest, rfl, hrest⟩ | ⟨rest, hd, hrest⟩
    · obtain ⟨before, after, rfl, rfl, rfl⟩ := ih hrest
      exact ⟨d :: before, after, rfl, utf8Bytes_cons d before, rfl⟩
    · rcases List.cons_eq_append_iff.mp hrest with ⟨rfl, hcs⟩ | ⟨rest, rfl, rfl⟩
      · have hcut : utf8Bytes cs = [] ++ b :: back := hcs
        obtain ⟨before, after, rfl, hbefore, rfl⟩ := ih hcut
        refine ⟨d :: before, after, rfl, ?_, rfl⟩
        rw [utf8Bytes_cons, hbefore, hd, List.append_nil, List.append_nil]
      · have hmem : b ∈ String.utf8EncodeChar d := by simp [hd]
        have hsingle := utf8EncodeChar_of_mem hmem hb
        obtain rfl : d = c := utf8EncodeChar_injective (hsingle.trans hc.symm)
        obtain ⟨rfl, rfl⟩ : front = [] ∧ rest = [] := by
          rw [hsingle] at hd
          simpa [List.singleton_eq_append_iff] using hd
        exact ⟨[], cs, rfl, rfl, rfl⟩

/-- A text that begins with a character of one byte and ends another text in bytes. -/
theorem utf8Bytes_cons_suffix_iff (hc : String.utf8EncodeChar c = [b]) (hb : b < 0x80) :
    utf8Bytes (c :: ds) <:+ utf8Bytes cs ↔ c :: ds <:+ cs := by
  refine ⟨?_, utf8Bytes_suffix⟩
  rintro ⟨front, hfront⟩
  rw [utf8Bytes_cons, hc] at hfront
  obtain ⟨before, after, rfl, -, hafter⟩ := exists_of_utf8Bytes_eq hc hb hfront.symm
  obtain rfl := utf8Bytes_injective hafter
  exact ⟨before, rfl⟩

end TrackedComments

import TrackedComments.Proofs.Text.Bytes

/-!
# Offsets into texts

A text is stored as the bytes of its characters, and a place in it is told by the number of bytes
before it. A text cannot be cut at every offset: not inside of a character, and not beyond its end.
Where the characters of a text in ASCII begin among the bytes, however, it can be cut.

## Main results

* `cutAt?_eq_some_iff`: where a text can be cut.
* `lastOffset?_eq_some_iff`: where bytes stand last among others.
* `exists_of_utf8Bytes_eq_append`: a text in ASCII stands among the characters wherever its bytes
  stand among the bytes.
-/

namespace TrackedComments

variable {cs ds before after : List Char} {front back piece bytes : List UInt8} {n m : Nat}

/-! ### Cuts -/

/-- The number of bytes of a text. -/
def byteLength (cs : List Char) : Nat :=
  (utf8Bytes cs).length

/-- Cuts a text at an offset, if it can be cut there. -/
def cutAt? : List Char → Nat → Option (List Char × List Char)
  | cs, 0 => some ([], cs)
  | [], _ + 1 => none
  | c :: cs, n + 1 =>
    if n + 1 < c.utf8Size then none
    else (cutAt? cs (n + 1 - c.utf8Size)).map fun (before, after) => (c :: before, after)

@[simp] theorem byteLength_nil : byteLength [] = 0 := rfl

@[simp] theorem byteLength_cons (c : Char) (cs : List Char) :
    byteLength (c :: cs) = c.utf8Size + byteLength cs := by
  rw [byteLength, utf8Bytes_cons, List.length_append, String.length_utf8EncodeChar, ← byteLength]

@[simp] theorem byteLength_append (cs ds : List Char) :
    byteLength (cs ++ ds) = byteLength cs + byteLength ds := by
  rw [byteLength, utf8Bytes_append, List.length_append, ← byteLength, ← byteLength]

/-- A text that is not empty has bytes. -/
theorem byteLength_pos (h : cs ≠ []) : 0 < byteLength cs := by
  obtain ⟨c, rest, rfl⟩ := List.exists_cons_of_ne_nil h
  have hpos := c.utf8Size_pos
  rw [byteLength_cons]
  omega

/-- A text can be cut at the offsets of its characters. -/
theorem cutAt?_eq_some_iff :
    cutAt? cs n = some (before, after) ↔ cs = before ++ after ∧ byteLength before = n := by
  fun_induction cutAt? cs n generalizing before with
  | case1 cs =>
    constructor
    · rintro h
      obtain ⟨rfl, rfl⟩ : [] = before ∧ cs = after := by simpa using h
      exact ⟨rfl, rfl⟩
    · rintro ⟨rfl, hlength⟩
      cases before with
      | nil => rfl
      | cons c rest =>
        have hpos := byteLength_pos (List.cons_ne_nil c rest)
        omega
  | case2 n =>
    refine iff_of_false (by simp) ?_
    rintro ⟨hnil, hlength⟩
    obtain ⟨rfl, -⟩ := List.nil_eq_append_iff.mp hnil
    simp at hlength
  | case3 c cs n hshort =>
    -- the character goes beyond the offset
    refine iff_of_false (by simp) ?_
    rintro ⟨hcs, hlength⟩
    rcases List.cons_eq_append_iff.mp hcs with ⟨rfl, -⟩ | ⟨rest, rfl, -⟩
    · simp at hlength
    · rw [byteLength_cons] at hlength
      omega
  | case4 c cs n hlong ih =>
    rw [Option.map_eq_some_iff]
    constructor
    · rintro ⟨⟨rest, after'⟩, hcut, heq⟩
      obtain ⟨rfl, rfl⟩ : c :: rest = before ∧ after' = after := by simpa using heq
      obtain ⟨rfl, hlength⟩ := ih.mp hcut
      refine ⟨rfl, ?_⟩
      rw [byteLength_cons]
      omega
    · rintro ⟨hcs, hlength⟩
      rcases List.cons_eq_append_iff.mp hcs with ⟨rfl, -⟩ | ⟨rest, rfl, hrest⟩
      · simp at hlength
      · rw [byteLength_cons] at hlength
        exact ⟨(rest, after), ih.mpr ⟨hrest, by omega⟩, rfl⟩

/-- Two texts put together can be cut where the second begins. -/
theorem cutAt?_append (before after : List Char) :
    cutAt? (before ++ after) (byteLength before) = some (before, after) :=
  cutAt?_eq_some_iff.mpr ⟨rfl, rfl⟩

/-! ### Searches from the end -/

/-- The offset at which bytes stand last among others. -/
def lastOffset? (piece : List UInt8) : List UInt8 → Option Nat
  | [] => if piece.isEmpty then some 0 else none
  | b :: bytes =>
    match lastOffset? piece bytes with
    | some n => some (n + 1)
    | none => if piece.isPrefixOf (b :: bytes) then some 0 else none

/-- Whether bytes stand among others after a number of them. -/
def StandsAt (piece bytes : List UInt8) (n : Nat) : Prop :=
  ∃ front back, bytes = front ++ (piece ++ back) ∧ front.length = n

theorem standsAt_zero_iff : StandsAt piece bytes 0 ↔ piece <+: bytes := by
  constructor
  · rintro ⟨front, back, rfl, hlength⟩
    rw [List.eq_nil_of_length_eq_zero hlength]
    exact List.prefix_append piece back
  · rintro ⟨back, rfl⟩
    exact ⟨[], back, rfl, rfl⟩

theorem standsAt_succ_iff {b : UInt8} :
    StandsAt piece (b :: bytes) (n + 1) ↔ StandsAt piece bytes n := by
  constructor
  · rintro ⟨front, back, heq, hlength⟩
    obtain ⟨b', front, rfl⟩ := List.exists_cons_of_length_eq_add_one hlength
    exact ⟨front, back, (List.cons.inj heq).2, Nat.succ.inj hlength⟩
  · rintro ⟨front, back, rfl, rfl⟩
    exact ⟨b :: front, back, rfl, rfl⟩

theorem standsAt_nil_iff : StandsAt piece [] n ↔ piece = [] ∧ n = 0 := by
  constructor
  · rintro ⟨front, back, heq, rfl⟩
    obtain ⟨rfl, hpiece⟩ := List.nil_eq_append_iff.mp heq
    exact ⟨(List.append_eq_nil_iff.mp hpiece).1, rfl⟩
  · rintro ⟨rfl, rfl⟩
    exact ⟨[], [], rfl, rfl⟩

/-- Bytes stand at the beginning of others, or behind their first one. -/
theorem forall_standsAt_cons_iff {b : UInt8} {P : Nat → Prop} :
    (∀ m, StandsAt piece (b :: bytes) m → P m) ↔
      (piece <+: b :: bytes → P 0) ∧ ∀ m, StandsAt piece bytes m → P (m + 1) := by
  constructor
  · intro h
    exact ⟨fun hpiece => h 0 (standsAt_zero_iff.mpr hpiece),
      fun m hm => h (m + 1) (standsAt_succ_iff.mpr hm)⟩
  · rintro ⟨hzero, hsucc⟩ m hm
    cases m with
    | zero => exact hzero (standsAt_zero_iff.mp hm)
    | succ m => exact hsucc m (standsAt_succ_iff.mp hm)

/-- There is no last offset just when the bytes stand nowhere. -/
theorem lastOffset?_eq_none_iff :
    lastOffset? piece bytes = none ↔ ∀ n, ¬ StandsAt piece bytes n := by
  induction bytes with
  | nil => simp [lastOffset?, standsAt_nil_iff]
  | cons b bytes ih =>
    have hcons : (∀ n, ¬ StandsAt piece (b :: bytes) n) ↔
        ¬ piece <+: b :: bytes ∧ ∀ n, ¬ StandsAt piece bytes n := forall_standsAt_cons_iff
    rw [hcons, ← ih, lastOffset?]
    cases lastOffset? piece bytes <;> simp

/-- The last offset is one at which the bytes stand, and there is none behind it. -/
theorem lastOffset?_eq_some_iff :
    lastOffset? piece bytes = some n ↔
      StandsAt piece bytes n ∧ ∀ m, StandsAt piece bytes m → m ≤ n := by
  induction bytes generalizing n with
  | nil =>
    simp only [lastOffset?, List.isEmpty_iff, Option.ite_none_right_eq_some, Option.some.injEq]
    constructor
    · rintro ⟨hpiece, rfl⟩
      exact ⟨standsAt_nil_iff.mpr ⟨hpiece, rfl⟩,
        fun m hm => Nat.le_of_eq (standsAt_nil_iff.mp hm).2⟩
    · rintro ⟨hn, -⟩
      obtain ⟨hpiece, rfl⟩ := standsAt_nil_iff.mp hn
      exact ⟨hpiece, rfl⟩
  | cons b bytes ih =>
    rw [lastOffset?]
    cases hlast : lastOffset? piece bytes with
    | some k =>
      obtain ⟨hk, hmax⟩ := ih.mp hlast
      have hbound : ∀ m, StandsAt piece (b :: bytes) m → m ≤ k + 1 :=
        forall_standsAt_cons_iff.mpr
          ⟨fun _ => Nat.zero_le _, fun m hm => Nat.succ_le_succ (hmax m hm)⟩
      rw [Option.some.injEq]
      constructor
      · rintro rfl
        exact ⟨standsAt_succ_iff.mpr hk, hbound⟩
      · rintro ⟨hn, hall⟩
        exact Nat.le_antisymm (hall _ (standsAt_succ_iff.mpr hk)) (hbound n hn)
    | none =>
      have hzero : ∀ m, StandsAt piece (b :: bytes) m → m = 0 :=
        forall_standsAt_cons_iff.mpr
          ⟨fun _ => rfl, fun m hm => absurd hm (lastOffset?_eq_none_iff.mp hlast m)⟩
      simp only [Option.ite_none_right_eq_some, Option.some.injEq, List.isPrefixOf_iff_prefix]
      rw [← standsAt_zero_iff]
      constructor
      · rintro ⟨h, rfl⟩
        exact ⟨h, fun m hm => Nat.le_of_eq (hzero m hm)⟩
      · rintro ⟨hn, -⟩
        obtain rfl := hzero n hn
        exact ⟨hn, rfl⟩

/-! ### Texts in ASCII -/

/-- A character of ASCII is stored as one byte. -/
theorem utf8EncodeChar_of_lt {c : Char} (h : c.toNat < 0x80) :
    String.utf8EncodeChar c = [UInt8.ofNat c.toNat] ∧ UInt8.ofNat c.toNat < 0x80 := by
  constructor
  · rw [String.utf8EncodeChar]
    exact if_pos (Nat.le_of_lt_succ h)
  · rw [UInt8.lt_iff_toNat_lt, UInt8.toNat_ofNat_of_lt' (Nat.lt_trans h (by decide))]
    exact h

/-- A text that begins with the bytes of a text in ASCII begins with its characters. -/
theorem exists_append_of_utf8Bytes_eq (hds : ∀ d ∈ ds, d.toNat < 0x80)
    (h : utf8Bytes cs = utf8Bytes ds ++ back) :
    ∃ after, cs = ds ++ after ∧ utf8Bytes after = back := by
  induction ds generalizing cs with
  | nil => exact ⟨cs, rfl, h⟩
  | cons d ds ih =>
    obtain ⟨hsingle, hlt⟩ := utf8EncodeChar_of_lt (hds d List.mem_cons_self)
    have hcut : utf8Bytes cs = [] ++ UInt8.ofNat d.toNat :: (utf8Bytes ds ++ back) := by
      rw [h, utf8Bytes_cons, hsingle]
      rfl
    obtain ⟨before, rest, rfl, hbefore, hrest⟩ := exists_of_utf8Bytes_eq hsingle hlt hcut
    obtain rfl : before = [] := utf8Bytes_injective hbefore
    obtain ⟨after, rfl, hafter⟩ := ih (fun d' hd' => hds d' (List.mem_cons_of_mem d hd')) hrest
    exact ⟨after, rfl, hafter⟩

/-- A text in ASCII stands among the characters wherever its bytes stand among the bytes. -/
theorem exists_of_utf8Bytes_eq_append (hne : ds ≠ []) (hds : ∀ d ∈ ds, d.toNat < 0x80)
    (h : utf8Bytes cs = front ++ (utf8Bytes ds ++ back)) :
    ∃ before after, cs = before ++ (ds ++ after) ∧ utf8Bytes before = front ∧
      utf8Bytes after = back := by
  obtain ⟨d, rest, rfl⟩ := List.exists_cons_of_ne_nil hne
  obtain ⟨hsingle, hlt⟩ := utf8EncodeChar_of_lt (hds d List.mem_cons_self)
  have hcut : utf8Bytes cs = front ++ UInt8.ofNat d.toNat :: (utf8Bytes rest ++ back) := by
    rw [h, utf8Bytes_cons, hsingle]
    rfl
  obtain ⟨before, more, rfl, hbefore, hmore⟩ := exists_of_utf8Bytes_eq hsingle hlt hcut
  obtain ⟨after, rfl, hafter⟩ :=
    exists_append_of_utf8Bytes_eq (fun d' hd' => hds d' (List.mem_cons_of_mem d hd')) hmore
  exact ⟨before, after, rfl, hbefore, hafter⟩

/-- The offsets at which the bytes of a text in ASCII stand are those of its characters. -/
theorem standsAt_utf8Bytes_iff (hne : ds ≠ []) (hds : ∀ d ∈ ds, d.toNat < 0x80) :
    StandsAt (utf8Bytes ds) (utf8Bytes cs) n ↔
      ∃ before after, cs = before ++ (ds ++ after) ∧ byteLength before = n := by
  constructor
  · rintro ⟨front, back, heq, rfl⟩
    obtain ⟨before, after, hcs, rfl, -⟩ := exists_of_utf8Bytes_eq_append hne hds heq
    exact ⟨before, after, hcs, rfl⟩
  · rintro ⟨before, after, rfl, rfl⟩
    exact ⟨utf8Bytes before, utf8Bytes after, by rw [utf8Bytes_append, utf8Bytes_append], rfl⟩

/-! ### Digits -/

/-- Whether a byte is a digit of ASCII. -/
def isDigitByte (b : UInt8) : Bool :=
  0x30 ≤ b && b ≤ 0x39

/-- The byte of a character of ASCII is a digit if the character is. -/
theorem isDigitByte_ofNat {c : Char} (h : c.toNat < 0x80) :
    isDigitByte (UInt8.ofNat c.toNat) = c.isDigit := by
  have hbyte : (UInt8.ofNat c.toNat).toNat = c.toNat :=
    UInt8.toNat_ofNat_of_lt' (Nat.lt_trans h (by decide))
  rw [Bool.eq_iff_iff]
  simp only [isDigitByte, Char.isDigit, Bool.and_eq_true, decide_eq_true_eq, UInt8.le_iff_toNat_le,
    hbyte]
  exact Iff.rfl

/-- A character is a digit of ASCII if its bytes are. -/
theorem all_isDigitByte_utf8EncodeChar (c : Char) :
    (String.utf8EncodeChar c).all isDigitByte = c.isDigit := by
  by_cases hc : c.toNat < 0x80
  · obtain ⟨hsingle, -⟩ := utf8EncodeChar_of_lt hc
    rw [hsingle, List.all_cons, List.all_nil, Bool.and_true, isDigitByte_ofNat hc]
  · have hdigit : c.isDigit = false := by
      rw [Bool.eq_false_iff]
      intro h
      have hle : c.toNat ≤ 57 := by
        simp only [Char.isDigit, Bool.and_eq_true, decide_eq_true_eq] at h
        exact h.2
      omega
    rw [hdigit, List.all_eq_false]
    -- a digit among its bytes would be its only byte
    have hsize := String.length_utf8EncodeChar c
    obtain ⟨b, rest, hbytes⟩ : ∃ b rest, String.utf8EncodeChar c = b :: rest :=
      List.exists_cons_of_length_pos (hsize ▸ c.utf8Size_pos)
    have hmem : b ∈ String.utf8EncodeChar c := hbytes ▸ List.mem_cons_self
    refine ⟨b, hmem, fun hb => hc ?_⟩
    simp only [isDigitByte, Bool.and_eq_true, decide_eq_true_eq] at hb
    have hsingle := utf8EncodeChar_of_mem hmem (UInt8.lt_of_le_of_lt hb.2 (by decide))
    rw [hsingle] at hsize
    exact Nat.lt_succ_of_le (Char.utf8Size_eq_one_iff.mp hsize.symm)

/-- A text is made of digits of ASCII if its bytes are. -/
theorem all_isDigitByte_utf8Bytes (cs : List Char) :
    (utf8Bytes cs).all isDigitByte = cs.all Char.isDigit := by
  induction cs with
  | nil => rfl
  | cons c cs ih =>
    rw [utf8Bytes_cons, List.all_append, all_isDigitByte_utf8EncodeChar, ih, List.all_cons]

end TrackedComments

import TrackedComments.Marker
import TrackedComments.Proofs.Text.Space

/-!
# Markers on lines

A blank never belongs to a marker, so a line can be read in the pieces between its blanks. That is
why trimming a line does not change its number, and why a marker that is put after a blank at the
end of a line without one gives the number of the line.

## Main results

* `Marker.digitsAt?_eq_some_iff`: which markers a text begins with.
* `Marker.exists_standsAfter_of_firstDigits?`: the first marker of a line is one that no other
  precedes.
* `Marker.firstDigits?_append_of_isSpace`: the first marker of a line is that of the first piece
  with one.
* `Marker.find?_append_format`: the number of a line to which a marker has been added.
* `Marker.find?_trim`: the blanks at its ends have no part in the number of a line.
-/

namespace TrackedComments

/-- The code points of blanks. -/
def spaceCodes : List Nat :=
  [0x9, 0xa, 0xb, 0xc, 0xd, 0x20, 0x85, 0xa0, 0x1680, 0x2000, 0x2001, 0x2002, 0x2003, 0x2004,
    0x2005, 0x2006, 0x2007, 0x2008, 0x2009, 0x200a, 0x2028, 0x2029, 0x202f, 0x205f, 0x3000]

/-- The listed code points are those of all blanks. -/
theorem toNat_mem_spaceCodes {c : Char} (h : isSpace c) : c.toNat ∈ spaceCodes := by
  simp only [isSpace, Bool.or_eq_true, Bool.and_eq_true, decide_eq_true_eq, beq_iff_eq] at h
  simp only [spaceCodes, List.mem_cons, List.not_mem_nil, or_false]
  omega

/-- A blank is no digit of any script. -/
theorem isDecimalDigit_of_isSpace {c : Char} (h : isSpace c) : isDecimalDigit c = false := by
  have hall : ∀ n ∈ spaceCodes,
      (decimalZeros.any fun first => first ≤ n && n < first + 10) = false := by
    decide
  exact hall c.toNat (toNat_mem_spaceCodes h)

namespace Marker

variable {line before digits : List Char} {n : UInt64}

/-- There is no blank in the beginning of a marker. -/
theorem isSpace_of_mem_opening : ∀ c ∈ opening, isSpace c = false := by
  have hall : opening.all (fun c => !isSpace c) := by decide
  simpa only [List.all_eq_true, Bool.not_eq_true'] using hall

/-- A blank does not stand in the beginning of a marker. -/
theorem not_mem_opening_of_isSpace {c : Char} (h : isSpace c) : c ∉ opening := by
  intro hc
  simp [isSpace_of_mem_opening c hc] at h

/-- Whether a line begins with characters does not depend on what follows a foreign one. -/
theorem isPrefixOf_append_cons {before : List Char} {c : Char} (hc : c ∉ before)
    (cs rest : List Char) : before.isPrefixOf (cs ++ c :: rest) = before.isPrefixOf cs := by
  induction before generalizing cs with
  | nil => simp
  | cons b before ih =>
    have hne : b ≠ c := fun h => hc (h ▸ List.mem_cons_self)
    cases cs with
    | nil => simp [List.isPrefixOf, hne]
    | cons d cs => simp [List.isPrefixOf, ih fun h => hc (List.mem_cons_of_mem _ h)]

/-- A line holds the beginning of a marker if it stands somewhere in it. -/
theorem isOpenedIn_iff {cs : List Char} : isOpenedIn cs ↔ opening <:+: cs := by
  induction cs with
  | nil => simp [isOpenedIn, opening]
  | cons c cs ih =>
    rw [isOpenedIn, Bool.or_eq_true, List.isPrefixOf_iff_prefix, ih, List.infix_cons_iff]

/-- Every marker holds the beginning of one. -/
theorem opening_isInfix_format (number : UInt64) : opening <:+: format number :=
  ⟨[], number.toNat.repr.toList ++ [']'], by simp [format]⟩

/-! ### Numbers -/

/-- A natural number is written in digits of ASCII. -/
theorem isDigit_of_mem_repr {n : Nat} {c : Char} (h : c ∈ n.repr.toList) : c.isDigit := by
  rw [Nat.toList_repr] at h
  exact Nat.isDigit_of_mem_toDigits (by decide) (by decide) h

/-- Whether digits are those of an issue number: digits of ASCII, with a value from 1 to the
greatest one of 64 bits. -/
structure GivesIssue (digits : List Char) (n : UInt64) : Prop where
  isDigit : ∀ c ∈ digits, c.isDigit
  value : Nat.ofDigitChars 10 digits 0 = n.toNat
  ne_zero : n ≠ 0

/-- Digits are read as a number just when they are those of an issue number. -/
theorem number?_eq_some_iff : number? digits = some n ↔ GivesIssue digits n := by
  unfold number?
  dsimp only
  constructor
  · intro h
    split at h
    · rename_i hall
      split at h
      · rename_i hrange
        obtain rfl := Option.some.inj h
        have hvalue : (UInt64.ofNat (Nat.ofDigitChars 10 digits 0)).toNat =
            Nat.ofDigitChars 10 digits 0 := UInt64.toNat_ofNat_of_lt hrange.2
        refine ⟨List.all_eq_true.mp hall, hvalue.symm, fun hzero => ?_⟩
        rw [hzero] at hvalue
        exact absurd hvalue.symm (Nat.ne_of_gt hrange.1)
      · simp at h
    · simp at h
  · rintro ⟨hdigits, hvalue, hne⟩
    have hpos : 0 < n.toNat := Nat.pos_of_ne_zero fun hzero => hne (UInt64.toNat_inj.mp hzero)
    rw [if_pos (List.all_eq_true.mpr hdigits), hvalue, if_pos ⟨hpos, n.toNat_lt⟩,
      UInt64.ofNat_toNat]

/-- The digits of a number give the number, unless it is zero. -/
theorem number?_repr (n : UInt64) :
    number? n.toNat.repr.toList = if n = 0 then none else some n := by
  by_cases hn : n = 0
  · subst hn
    rfl
  · rw [if_neg hn, number?_eq_some_iff]
    refine ⟨fun c hc => isDigit_of_mem_repr hc, ?_, hn⟩
    rw [Nat.toList_repr, Nat.ofDigitChars_ten_toDigits]

/-! ### Where markers stand -/

/-- Whether a marker stands in a line after some text. Its digits may be those of any script. -/
structure StandsAfter (line before digits : List Char) : Prop where
  ne_nil : digits ≠ []
  isDecimalDigit : ∀ c ∈ digits, isDecimalDigit c
  exists_eq : ∃ after, line = before ++ (opening ++ (digits ++ ']' :: after))

/-- The digits of a marker are read where a line begins with one. -/
theorem digitsAt?_eq_some_iff {cs : List Char} :
    digitsAt? cs = some digits ↔ StandsAfter cs [] digits := by
  have hclose : isDecimalDigit ']' = false := by decide
  constructor
  · intro h
    unfold digitsAt? at h
    split at h
    · rename_i hpre
      obtain ⟨rest, rfl⟩ := List.isPrefixOf_iff_prefix.mp hpre
      rw [List.drop_left] at h
      dsimp only at h
      split at h
      · simp at h
      · rename_i hne
        split at h
        · rename_i hhead
          obtain ⟨after, hafter⟩ := List.head?_eq_some_iff.mp hhead
          obtain rfl := Option.some.inj h
          refine ⟨by simpa using hne, List.all_eq_true.mp List.all_takeWhile, after, ?_⟩
          rw [List.nil_append, ← hafter, List.takeWhile_append_dropWhile]
        · simp at h
    · simp at h
  · rintro ⟨hne, hdigits, after, rfl⟩
    have hpre : opening.isPrefixOf (opening ++ (digits ++ ']' :: after)) :=
      List.isPrefixOf_iff_prefix.mpr (List.prefix_append _ _)
    rw [List.nil_append, digitsAt?, if_pos hpre]
    simp only [List.drop_left, List.takeWhile_append_of_pos hdigits,
      List.dropWhile_append_of_pos hdigits]
    simp [hclose, hne]

theorem standsAfter_cons_iff {c d : Char} :
    StandsAfter (c :: line) (d :: before) digits ↔ d = c ∧ StandsAfter line before digits := by
  constructor
  · rintro ⟨hne, hdigits, after, heq⟩
    obtain ⟨rfl, rfl⟩ := List.cons.inj heq
    exact ⟨rfl, hne, hdigits, after, rfl⟩
  · rintro ⟨rfl, hne, hdigits, after, rfl⟩
    exact ⟨hne, hdigits, after, rfl⟩

theorem not_standsAfter_nil : ¬ StandsAfter [] before digits := by
  rintro ⟨-, -, after, heq⟩
  simp [opening] at heq

/-- A line without digits of a marker has no marker. -/
theorem StandsAfter.firstDigits?_ne_none (h : StandsAfter line before digits) :
    firstDigits? line ≠ none := by
  induction line generalizing before with
  | nil => exact absurd h not_standsAfter_nil
  | cons c line ih =>
    rw [firstDigits?, ne_eq, Option.or_eq_none_iff, not_and_or]
    cases before with
    | nil => exact .inl (by simp [digitsAt?_eq_some_iff.mpr h])
    | cons d before => exact .inr (ih (standsAfter_cons_iff.mp h).2)

/-- The digits of the first marker are those of a marker that no other one precedes. -/
theorem exists_standsAfter_of_firstDigits? (h : firstDigits? line = some digits) :
    ∃ before, StandsAfter line before digits ∧
      ∀ before' digits', StandsAfter line before' digits' → before.length ≤ before'.length := by
  induction line with
  | nil => simp [firstDigits?] at h
  | cons c line ih =>
    rw [firstDigits?] at h
    cases hat : digitsAt? (c :: line) with
    | some digits' =>
      rw [hat, Option.some_or] at h
      obtain rfl := Option.some.inj h
      exact ⟨[], digitsAt?_eq_some_iff.mp hat, fun _ _ _ => Nat.zero_le _⟩
    | none =>
      rw [hat, Option.none_or] at h
      obtain ⟨before, hstands, hfirst⟩ := ih h
      refine ⟨c :: before, standsAfter_cons_iff.mpr ⟨rfl, hstands⟩, fun before' digits' h' => ?_⟩
      cases before' with
      | nil => simp [digitsAt?_eq_some_iff.mpr h'] at hat
      | cons d before' =>
        exact Nat.succ_le_succ (hfirst before' digits' (standsAfter_cons_iff.mp h').2)

/-- At one place stands one marker. -/
theorem StandsAfter.unique {before' digits' : List Char} (h : StandsAfter line before digits)
    (h' : StandsAfter line before' digits') (hlength : before.length = before'.length) :
    before = before' ∧ digits = digits' := by
  induction line generalizing before before' with
  | nil => exact absurd h not_standsAfter_nil
  | cons c line ih =>
    cases before with
    | nil =>
      obtain rfl := List.eq_nil_of_length_eq_zero hlength.symm
      have hdigits := digitsAt?_eq_some_iff.mpr h
      rw [digitsAt?_eq_some_iff.mpr h'] at hdigits
      exact ⟨rfl, (Option.some.inj hdigits).symm⟩
    | cons d before =>
      obtain ⟨d', before', rfl⟩ := List.exists_cons_of_length_eq_add_one hlength.symm
      obtain ⟨rfl, hrest⟩ := standsAfter_cons_iff.mp h
      obtain ⟨rfl, hrest'⟩ := standsAfter_cons_iff.mp h'
      obtain ⟨rfl, rfl⟩ := ih hrest hrest' (Nat.succ.inj hlength)
      exact ⟨rfl, rfl⟩

/-! ### Pieces of a line -/

/-- What is taken does not go beyond a character that fails the test. -/
theorem takeWhile_append_cons_of_neg {p : Char → Bool} {c : Char} (hc : p c = false)
    (cs rest : List Char) : (cs ++ c :: rest).takeWhile p = cs.takeWhile p := by
  induction cs with
  | nil => simp [hc]
  | cons d cs ih => rw [List.cons_append, List.takeWhile_cons, List.takeWhile_cons, ih]

/-- Whether a character comes next does not depend on what follows another one. -/
theorem head?_dropWhile_append_cons {p : Char → Bool} {c d : Char} (hc : p c = false) (hne : c ≠ d)
    (cs rest : List Char) :
    ((cs ++ c :: rest).dropWhile p).head? = some d ↔ (cs.dropWhile p).head? = some d := by
  rw [Chars.dropWhile_append_cons_of_neg hc]
  cases cs.dropWhile p <;> simp [hne]

/-- What follows a blank is not part of a marker that begins before it. -/
theorem digitsAt?_append_of_isSpace {c : Char} (hc : isSpace c) (cs rest : List Char) :
    digitsAt? (cs ++ c :: rest) = digitsAt? cs := by
  unfold digitsAt?
  rw [isPrefixOf_append_cons (not_mem_opening_of_isSpace hc)]
  split
  · rename_i hpre
    obtain ⟨tail, rfl⟩ := List.isPrefixOf_iff_prefix.mp hpre
    have hdigit := isDecimalDigit_of_isSpace hc
    have hclose : c ≠ ']' := by
      rintro rfl
      exact absurd hc (by decide)
    simp only [List.append_assoc, List.drop_left, takeWhile_append_cons_of_neg hdigit,
      head?_dropWhile_append_cons hdigit hclose]
  · rfl

/-- The first marker of a line is that of the first of its pieces, cut at a blank, that has one. -/
theorem firstDigits?_append_of_isSpace {c : Char} (hc : isSpace c) (cs rest : List Char) :
    firstDigits? (cs ++ c :: rest) = (firstDigits? cs).or (firstDigits? rest) := by
  induction cs with
  | nil =>
    have hnone : digitsAt? (c :: rest) = none := by
      have h := digitsAt?_append_of_isSpace hc [] rest
      rwa [List.nil_append] at h
    simp [firstDigits?, hnone]
  | cons d cs ih =>
    have hhead := digitsAt?_append_of_isSpace hc (d :: cs) rest
    rw [List.cons_append] at hhead
    rw [List.cons_append, firstDigits?, firstDigits?, hhead, ih, Option.or_assoc]

/-- Blanks at the end of a line have no part in its first marker. -/
theorem firstDigits?_append_blanks (cs : List Char) {blanks : List Char}
    (h : ∀ c ∈ blanks, isSpace c) : firstDigits? (cs ++ blanks) = firstDigits? cs := by
  induction blanks generalizing cs with
  | nil => rw [List.append_nil]
  | cons c blanks ih =>
    have hnone : firstDigits? blanks = none := by
      have hnil := ih [] fun d hd => h d (List.mem_cons_of_mem _ hd)
      rwa [List.nil_append] at hnil
    rw [firstDigits?_append_of_isSpace (h c List.mem_cons_self), hnone, Option.or_none]

/-- Blanks at the front of a line have no part in its first marker. -/
theorem firstDigits?_trimStart (cs : List Char) :
    firstDigits? (Chars.trimStart cs) = firstDigits? cs := by
  induction cs with
  | nil => rfl
  | cons c cs ih =>
    by_cases hc : isSpace c
    · have hcons := firstDigits?_append_of_isSpace hc [] cs
      rw [List.nil_append] at hcons
      rw [Chars.trimStart, List.dropWhile_cons_of_pos hc, ← Chars.trimStart, ih, hcons]
      rfl
    · rw [Chars.trimStart, List.dropWhile_cons_of_neg hc]

/-- Blanks at the end of a line have no part in its number. -/
theorem find?_append_blanks (cs : List Char) {blanks : List Char} (h : ∀ c ∈ blanks, isSpace c) :
    find? (cs ++ blanks) = find? cs := by
  rw [find?, firstDigits?_append_blanks cs h, ← find?]

/-- Trimming the end of a line does not change its number. -/
theorem find?_trimEnd (line : List Char) : find? (Chars.trimEnd line) = find? line := by
  obtain ⟨blanks, hline, hblanks⟩ := Chars.exists_trimEnd_append line
  conv_rhs => rw [hline, find?_append_blanks _ hblanks]

/-- The blanks at its ends have no part in the number of a line. -/
theorem find?_trim (cs : List Char) : find? (Chars.trim cs) = find? cs := by
  rw [find?, Chars.trim, firstDigits?_trimStart, ← find?, find?_trimEnd]

/-- A line without the beginning of a marker has no marker. -/
theorem firstDigits?_of_not_isOpenedIn {cs : List Char} (h : isOpenedIn cs = false) :
    firstDigits? cs = none := by
  induction cs with
  | nil => rfl
  | cons c cs ih =>
    rw [isOpenedIn, Bool.or_eq_false_iff] at h
    rw [firstDigits?, ih h.2, Option.or_none, digitsAt?, h.1]
    rfl

/-- A marker is read as the digits of its number. -/
theorem digitsAt?_format (n : UInt64) : digitsAt? (format n) = some n.toNat.repr.toList := by
  refine digitsAt?_eq_some_iff.mpr ⟨?_, fun c hc => ?_, [], by simp [format]⟩
  · rw [Nat.toList_repr]
    exact Nat.toDigits_ne_nil
  · exact isDecimalDigit_of_isDigit (isDigit_of_mem_repr hc)

/-- The first marker of a marker is the marker itself. -/
theorem firstDigits?_format (n : UInt64) : firstDigits? (format n) = some n.toNat.repr.toList := by
  have hcons : format n = '[' :: (format n).tail := rfl
  have hdigits := digitsAt?_format n
  rw [hcons] at hdigits ⊢
  rw [firstDigits?, hdigits, Option.some_or]

/-- The number of a line to which a marker has been added, if the line held no marker before. -/
theorem find?_append_format {line : List Char} (h : isOpenedIn line = false) (n : UInt64) :
    find? (line ++ ' ' :: format n) = if n = 0 then none else some n := by
  rw [find?, firstDigits?_append_of_isSpace (by decide), firstDigits?_of_not_isOpenedIn h,
    Option.none_or, firstDigits?_format, Option.bind_some, number?_repr]

/-- A line that holds no beginning of a marker has no number. -/
theorem find?_of_not_isOpenedIn {line : List Char} (h : isOpenedIn line = false) :
    find? line = none := by
  rw [find?, firstDigits?_of_not_isOpenedIn h, Option.bind_none]

end Marker

end TrackedComments

import TrackedComments.Proofs.Marker.Stripping
import TrackedComments.Proofs.Text.Offsets

/-!
# What stands at the end of a line

Blanks and markers, in any number and in any order, make up the trailer of a line. Taking markers
off removes the longest trailer there is, whatever else the line holds: a marker inside of another
one, one without digits, or one with more text behind it.

A line is stored as bytes, and the markers can be taken off without looking at a character: the last
place where a marker may begin is searched among the bytes, and the line is cut there. The search
never comes to a place where no cut can be made.

## Main definitions

* `Marker.IsTrailer`: the texts that are made of blanks and markers.
* `Marker.stripByOffsets?`: markers taken off at offsets into the line.

## Main results

* `Marker.stripTrailing_append`: a trailer that is added to a line has no part in what is left.
* `Marker.stripByOffsets?_eq`: all cuts can be made, and what is left is the same.
* `Marker.stripTrailing_shortest`: what is left of a line is its shortest beginning that only blanks
  and markers follow.
-/

namespace TrackedComments.Marker

variable {line before after cs digits trailer rest : List Char}

/-! ### Trailers -/

/-- Whether characters are the digits of a marker that can be taken off. -/
structure AreDigits (digits : List Char) : Prop where
  ne_nil : digits ≠ []
  isDigit : ∀ d ∈ digits, d.isDigit

/-- A marker with the given digits. -/
def withDigits (digits : List Char) : List Char :=
  opening ++ (digits ++ [']'])

/-- The texts that are made of blanks and markers. -/
inductive IsTrailer : List Char → Prop where
  | nil : IsTrailer []
  | blank {c : Char} {cs : List Char} : isSpace c → IsTrailer cs → IsTrailer (c :: cs)
  | marker {digits cs : List Char} : AreDigits digits → IsTrailer cs →
      IsTrailer (withDigits digits ++ cs)

/-- One trailer after the other is a trailer. -/
theorem IsTrailer.append (h : IsTrailer cs) (h' : IsTrailer rest) : IsTrailer (cs ++ rest) := by
  induction h with
  | nil => exact h'
  | blank hc _ ih => exact .blank hc ih
  | marker hdigits _ ih =>
    rw [List.append_assoc]
    exact .marker hdigits ih

/-- Blanks are a trailer. -/
theorem isTrailer_of_blanks (h : ∀ c ∈ cs, isSpace c) : IsTrailer cs := by
  induction cs with
  | nil => exact .nil
  | cons c cs ih =>
    exact .blank (h c List.mem_cons_self) (ih fun d hd => h d (List.mem_cons_of_mem c hd))

/-- A marker is a trailer, whatever its digits. -/
theorem isTrailer_withDigits (h : AreDigits digits) : IsTrailer (withDigits digits) := by
  rw [← List.append_nil (withDigits digits)]
  exact .marker h .nil

/-- What is dropped from the end of a line is a marker, whatever its digits. -/
theorem dropReversed_eq_some_iff_withDigits :
    dropReversed line.reverse = some before.reverse ↔
      ∃ digits, AreDigits digits ∧ line = before ++ withDigits digits := by
  rw [dropReversed_eq_some_iff]
  constructor
  · rintro ⟨digits, hne, hdigits, heq⟩
    refine ⟨digits.reverse, ⟨by simpa using hne, by simpa using hdigits⟩, ?_⟩
    rw [← List.reverse_inj, heq]
    simp [withDigits]
  · rintro ⟨digits, ⟨hne, hdigits⟩, rfl⟩
    exact ⟨digits.reverse, by simpa using hne, by simpa using hdigits, by simp [withDigits]⟩

/-! ### What is left -/

/-- A marker at the end of a line is taken off. -/
theorem stripTrailing_append_withDigits (line : List Char) (h : AreDigits digits) :
    stripTrailing (line ++ withDigits digits) = stripTrailing line := by
  have hdrop : dropReversed (line ++ withDigits digits).reverse = some line.reverse :=
    dropReversed_eq_some_iff_withDigits.mpr ⟨digits, h, rfl⟩
  have hblank : Chars.trimStart (line ++ withDigits digits).reverse =
      (line ++ withDigits digits).reverse := by
    rw [Chars.trimStart_eq_self_iff]
    have hclose : isSpace ']' = false := by decide
    simp [withDigits, hclose]
  rw [stripTrailing, stripReversed_of_dropReversed hblank hdrop, ← stripTrailing]

/-- A trailer that is added to a line has no part in what is left. -/
theorem stripTrailing_append (line : List Char) (h : IsTrailer trailer) :
    stripTrailing (line ++ trailer) = stripTrailing line := by
  induction h generalizing line with
  | nil => rw [List.append_nil]
  | @blank c cs hc _ ih =>
    rw [← List.singleton_append, ← List.append_assoc, ih, stripTrailing_append_blank line hc]
  | marker hdigits _ ih =>
    rw [← List.append_assoc, ih, stripTrailing_append_withDigits line hdigits]

/-- A trailer is all that is taken off, here of a reversed text. -/
theorem exists_eq_append_stripReversed (cs : List Char) :
    ∃ removed, cs = removed ++ stripReversed cs ∧ IsTrailer removed.reverse := by
  have hblanks (cs : List Char) : IsTrailer (cs.takeWhile isSpace).reverse :=
    isTrailer_of_blanks fun c hc =>
      List.all_eq_true.mp List.all_takeWhile c (List.mem_reverse.mp hc)
  fun_induction stripReversed cs with
  | case1 cs _ =>
    exact ⟨cs.takeWhile isSpace, List.takeWhile_append_dropWhile.symm, hblanks cs⟩
  | case2 cs rest hdrop ih =>
    obtain ⟨removed, hremoved, htrailer⟩ := ih
    obtain ⟨digits, hne, hdigits, hcs⟩ := dropReversed_eq_some_iff.mp hdrop
    refine ⟨cs.takeWhile isSpace ++ (']' :: (digits ++ opening.reverse) ++ removed), ?_, ?_⟩
    · conv_lhs =>
        rw [← List.takeWhile_append_dropWhile (p := isSpace) (l := cs), hcs, hremoved]
      simp
    · have hmarker : IsTrailer (withDigits digits.reverse) :=
        isTrailer_withDigits ⟨by simpa using hne, by simpa using hdigits⟩
      have htail := htrailer.append (hmarker.append (hblanks cs))
      simpa [withDigits] using htail

/-- A trailer is all that is taken off. -/
theorem exists_eq_stripTrailing_append (line : List Char) :
    ∃ trailer, line = stripTrailing line ++ trailer ∧ IsTrailer trailer := by
  obtain ⟨removed, hremoved, htrailer⟩ := exists_eq_append_stripReversed line.reverse
  refine ⟨removed.reverse, ?_, htrailer⟩
  rw [← List.reverse_inj, hremoved]
  simp [stripTrailing, ← hremoved]

/-- A line that has been stripped need not be stripped again. -/
theorem stripTrailing_stripTrailing (line : List Char) :
    stripTrailing (stripTrailing line) = stripTrailing line := by
  obtain ⟨trailer, hline, htrailer⟩ := exists_eq_stripTrailing_append line
  conv_rhs => rw [hline, stripTrailing_append _ htrailer]

/-- What is left of a line that ends in a trailer is left of what stands before it. -/
theorem stripTrailing_prefix_of_append (h : line = before ++ trailer)
    (htrailer : IsTrailer trailer) :
    stripTrailing line <+: before := by
  rw [h, stripTrailing_append before htrailer]
  exact stripTrailing_prefix before

/-- What is left of a line ends in no trailer but the empty one. -/
theorem eq_nil_of_stripTrailing_eq_append (h : stripTrailing line = before ++ trailer)
    (htrailer : IsTrailer trailer) : trailer = [] := by
  have hprefix := (stripTrailing_prefix_of_append h htrailer).length_le
  rw [stripTrailing_stripTrailing, h, List.length_append] at hprefix
  exact List.eq_nil_of_length_eq_zero (by omega)

/-! ### Offsets -/

/-- Whether a text that begins like a marker is one: long enough, with the closing bracket at its
end and digits in between. There is no answer if a cut cannot be made. -/
def isMarker? (tail : List Char) : Option Bool :=
  if byteLength opening + 1 < byteLength tail ∧ tail.getLast? = some ']' then do
    let (front, _) ← cutAt? tail (byteLength tail - 1)
    let (_, digits) ← cutAt? front (byteLength opening)
    some ((utf8Bytes digits).all isDigitByte)
  else some false

/-- A marker is not empty. -/
theorem ne_nil_of_isMarker? {tail : List Char} (h : isMarker? tail = some true) : tail ≠ [] := by
  rintro rfl
  simp [isMarker?] at h

/-- Takes off the marker that begins last, if it is one, then the blanks before it, and so on. There
is no result if a cut cannot be made. -/
def stripFrom? (rest : List Char) : Option (List Char) :=
  match lastOffset? (utf8Bytes opening) (utf8Bytes rest) with
  | none => some rest
  | some start =>
    match _hcut : cutAt? rest start with
    | none => none
    | some (front, tail) =>
      match _hmarker : isMarker? tail with
      | none => none
      | some false => some rest
      | some true => stripFrom? (Chars.trimEnd front)
termination_by rest.length
decreasing_by
  have htail := List.length_pos_iff.mpr (ne_nil_of_isMarker? _hmarker)
  have hfront := (Chars.trimEnd_prefix front).length_le
  rw [(cutAt?_eq_some_iff.mp _hcut).1, List.length_append]
  omega

/-- Takes off the markers at the end of a line, and the blanks around them, at offsets into it. -/
def stripByOffsets? (line : List Char) : Option (List Char) :=
  stripFrom? (Chars.trimEnd line)

/-- The beginning of a marker is made of ASCII. -/
theorem isAscii_opening : ∀ c ∈ opening, c.toNat < 0x80 := by
  simp [opening]

/-- The offsets at which a marker may begin. -/
theorem standsAt_opening_iff {n : Nat} :
    StandsAt (utf8Bytes opening) (utf8Bytes line) n ↔
      ∃ before after, line = before ++ (opening ++ after) ∧ byteLength before = n :=
  standsAt_utf8Bytes_iff (by decide) isAscii_opening

/-- An opening bracket stands only at the beginning of a marker. -/
theorem not_mem_tail_withDigits (h : AreDigits digits) : '[' ∉ (withDigits digits).tail := by
  have hdigit : '[' ∉ digits := fun hmem => absurd (h.isDigit _ hmem) (by decide)
  simp [withDigits, opening, hdigit]

/-- No marker begins inside of another one. -/
theorem prefix_of_append_withDigits (h : AreDigits digits)
    (heq : line ++ withDigits digits = before ++ (opening ++ after)) : before <+: line := by
  rcases List.append_eq_append_iff.mp heq with ⟨inside, rfl, hinside⟩ | ⟨more, rfl, -⟩
  · cases inside with
    | nil => exact (List.append_nil line).symm ▸ List.prefix_rfl
    | cons c inside =>
      refine absurd ?_ (not_mem_tail_withDigits h)
      rw [hinside]
      simp [opening]
  · exact List.prefix_append before more

/-- The marker that begins last is the one at the end of a line, if there is one. -/
theorem lastOffset?_append_withDigits (line : List Char) (h : AreDigits digits) :
    lastOffset? (utf8Bytes opening) (utf8Bytes (line ++ withDigits digits)) =
      some (byteLength line) := by
  refine lastOffset?_eq_some_iff.mpr ⟨standsAt_opening_iff.mpr ⟨line, _, rfl, rfl⟩, ?_⟩
  intro m hm
  obtain ⟨before, after, heq, rfl⟩ := standsAt_opening_iff.mp hm
  obtain ⟨more, rfl⟩ := prefix_of_append_withDigits h heq
  rw [byteLength_append]
  exact Nat.le_add_right _ _

/-- What does not end in a closing bracket is no marker. -/
theorem isMarker?_of_getLast?_ne {tail : List Char} (h : tail.getLast? ≠ some ']') :
    isMarker? tail = some false :=
  if_neg fun hand => h hand.2

/-- A text between the opening and the closing bracket of a marker is tested for its digits. -/
theorem isMarker?_append_bracket (inside : List Char) :
    isMarker? (opening ++ (inside ++ [']'])) =
      some (!inside.isEmpty && inside.all Char.isDigit) := by
  have hlast : (opening ++ (inside ++ [']'])).getLast? = some ']' := by simp
  have hlength : byteLength (opening ++ (inside ++ [']'])) =
      byteLength (opening ++ inside) + 1 := by
    rw [← List.append_assoc, byteLength_append]
    rfl
  rw [isMarker?]
  by_cases hne : inside = []
  · subst hne
    rfl
  · have hpos := byteLength_pos hne
    have hlong : byteLength opening + 1 < byteLength (opening ++ (inside ++ [']'])) := by
      rw [hlength, byteLength_append]
      omega
    rw [if_pos ⟨hlong, hlast⟩, hlength, Nat.add_sub_cancel, ← List.append_assoc, cutAt?_append]
    simp [cutAt?_append, all_isDigitByte_utf8Bytes, hne]

/-- A text that begins like a marker can be tested for being one. -/
theorem exists_isMarker? (after : List Char) :
    ∃ answer, isMarker? (opening ++ after) = some answer ∧
      (answer = true ↔ ∃ digits, AreDigits digits ∧ opening ++ after = withDigits digits) := by
  by_cases hbracket : ∃ inside, after = inside ++ [']']
  · obtain ⟨inside, rfl⟩ := hbracket
    refine ⟨_, isMarker?_append_bracket inside, ?_⟩
    simp only [Bool.and_eq_true, Bool.not_eq_true', List.isEmpty_eq_false_iff, List.all_eq_true,
      withDigits, List.append_cancel_left_eq, List.append_cancel_right_eq]
    constructor
    · rintro ⟨hne, hdigits⟩
      exact ⟨inside, ⟨hne, hdigits⟩, rfl⟩
    · rintro ⟨digits, ⟨hne, hdigits⟩, rfl⟩
      exact ⟨hne, hdigits⟩
  · have hlast : (opening ++ after).getLast? ≠ some ']' := by
      rw [List.getLast?_append]
      cases hafter : after.getLast? with
      | none => decide
      | some c =>
        rw [Option.some_or, ne_eq, Option.some.injEq]
        rintro rfl
        exact hbracket (List.getLast?_eq_some_iff.mp hafter)
    refine ⟨false, isMarker?_of_getLast?_ne hlast, iff_of_false (by simp) ?_⟩
    rintro ⟨digits, -, heq⟩
    exact hbracket ⟨digits, List.append_cancel_left heq⟩

/-- Without a blank or a marker at its end a line is left as it is. -/
theorem stripTrailing_eq_self (hblank : Chars.trimEnd line = line)
    (hnot : ∀ before digits, AreDigits digits → line ≠ before ++ withDigits digits) :
    stripTrailing line = line := by
  have hnone : dropReversed line.reverse = none := by
    refine Option.eq_none_iff_forall_ne_some.mpr fun rest hrest => ?_
    rw [← List.reverse_reverse rest] at hrest
    obtain ⟨digits, hdigits, heq⟩ := dropReversed_eq_some_iff_withDigits.mp hrest
    exact hnot _ digits hdigits heq
  have htrim : Chars.trimStart line.reverse = line.reverse := by
    rw [← List.reverse_inj, List.reverse_reverse]
    exact hblank
  rw [stripTrailing, stripReversed_of_dropReversed_eq_none htrim hnone, List.reverse_reverse]

/-- The line can be cut where a marker may begin. -/
theorem cutAt?_of_lastOffset? {start : Nat}
    (h : lastOffset? (utf8Bytes opening) (utf8Bytes line) = some start) :
    ∃ before after, cutAt? line start = some (before, opening ++ after) := by
  obtain ⟨before, after, rfl, rfl⟩ := standsAt_opening_iff.mp (lastOffset?_eq_some_iff.mp h).1
  exact ⟨before, after, cutAt?_append before (opening ++ after)⟩

/-- What is cut off there begins like a marker. -/
theorem exists_eq_opening_append {start : Nat} {front tail : List Char}
    (h : lastOffset? (utf8Bytes opening) (utf8Bytes line) = some start)
    (hcut : cutAt? line start = some (front, tail)) : ∃ after, tail = opening ++ after := by
  obtain ⟨before, after, hcut'⟩ := cutAt?_of_lastOffset? h
  obtain ⟨-, rfl⟩ : before = front ∧ opening ++ after = tail := by
    simpa using hcut'.symm.trans hcut
  exact ⟨after, rfl⟩

/-- From a line that ends in no blank, the markers are taken off at offsets as they are taken off by
characters. -/
theorem stripFrom?_eq (hblank : Chars.trimEnd rest = rest) :
    stripFrom? rest = some (stripTrailing rest) := by
  fun_induction stripFrom? rest with
  | case1 rest hlast =>
    refine congrArg some (stripTrailing_eq_self hblank ?_).symm
    rintro before digits hdigits rfl
    rw [lastOffset?_append_withDigits before hdigits] at hlast
    simp at hlast
  | case2 rest start hlast hcut =>
    obtain ⟨before, after, hcut'⟩ := cutAt?_of_lastOffset? hlast
    rw [hcut'] at hcut
    simp at hcut
  | case3 rest start hlast front tail hcut hmarker =>
    obtain ⟨after, rfl⟩ := exists_eq_opening_append hlast hcut
    obtain ⟨answer, hanswer, -⟩ := exists_isMarker? after
    rw [hanswer] at hmarker
    simp at hmarker
  | case4 rest start hlast front tail hcut hmarker =>
    refine congrArg some (stripTrailing_eq_self hblank ?_).symm
    rintro before digits hdigits rfl
    -- the last marker is then the one at the end, which is a marker
    obtain rfl : byteLength before = start :=
      Option.some.inj ((lastOffset?_append_withDigits before hdigits).symm.trans hlast)
    obtain ⟨rfl, rfl⟩ : before = front ∧ withDigits digits = tail := by
      simpa using (cutAt?_append before (withDigits digits)).symm.trans hcut
    obtain ⟨answer, hanswer, hiff⟩ := exists_isMarker? (digits ++ [']'])
    have htrue := hiff.mpr ⟨digits, hdigits, rfl⟩
    rw [withDigits, hanswer, htrue] at hmarker
    simp at hmarker
  | case5 rest start hlast front tail hcut hmarker ih =>
    obtain ⟨after, rfl⟩ := exists_eq_opening_append hlast hcut
    obtain ⟨answer, hanswer, hiff⟩ := exists_isMarker? after
    obtain rfl : answer = true := Option.some.inj (hanswer.symm.trans hmarker)
    obtain ⟨digits, hdigits, htail⟩ := hiff.mp rfl
    rw [ih (Chars.trimEnd_trimEnd front), stripTrailing_trimEnd, (cutAt?_eq_some_iff.mp hcut).1,
      htail, stripTrailing_append_withDigits front hdigits]

/-- All cuts can be made, and what is left of the line is the same. -/
theorem stripByOffsets?_eq (line : List Char) :
    stripByOffsets? line = some (stripTrailing line) := by
  rw [stripByOffsets?, stripFrom?_eq (Chars.trimEnd_trimEnd line), stripTrailing_trimEnd]

/-! ### The shortest beginning -/

/-- What is left of a line is its shortest beginning that only blanks and markers follow. It ends in
neither of them, nothing more is taken off it, and blanks and markers that are added to the line
have no part in it. It is found at offsets as well, and none of the cuts that this takes fails. -/
theorem stripTrailing_shortest (line : List Char) :
    stripByOffsets? line = some (stripTrailing line) ∧
    (∃ trailer, line = stripTrailing line ++ trailer ∧ IsTrailer trailer) ∧
    (∀ before trailer, line = before ++ trailer → IsTrailer trailer →
      stripTrailing line <+: before) ∧
    (∀ c ∈ (stripTrailing line).getLast?, isSpace c = false) ∧
    (∀ before digits, AreDigits digits → stripTrailing line ≠ before ++ withDigits digits) ∧
    stripTrailing (stripTrailing line) = stripTrailing line ∧
    ∀ trailer, IsTrailer trailer → stripTrailing (line ++ trailer) = stripTrailing line := by
  refine ⟨stripByOffsets?_eq line, exists_eq_stripTrailing_append line,
    fun before trailer => stripTrailing_prefix_of_append,
    Chars.trimEnd_eq_self_iff.mp (trimEnd_stripTrailing line), fun before digits hdigits heq => ?_,
    stripTrailing_stripTrailing line, fun trailer => stripTrailing_append line⟩
  have hnil := eq_nil_of_stripTrailing_eq_append heq (isTrailer_withDigits hdigits)
  simp [withDigits] at hnil

/-- Markers with blanks between them that take one byte and three. -/
def spacedMarkers : List Char :=
  withDigits ['3'] ++ ' ' :: '\u3000' :: withDigits ['0', '7']

/-- Markers with blanks around them are a trailer. -/
theorem isTrailer_spacedMarkers : IsTrailer spacedMarkers := by
  have hdigits : AreDigits ['3'] ∧ AreDigits ['0', '7'] :=
    ⟨⟨by simp, List.all_eq_true.mp rfl⟩, by simp, List.all_eq_true.mp rfl⟩
  have hblanks : isSpace ' ' = true ∧ isSpace '\u3000' = true := by decide +kernel
  exact .marker hdigits.1 (.blank hblanks.1 (.blank hblanks.2 (isTrailer_withDigits hdigits.2)))

/-- What stands around a marker is no marker, even if it looks like the beginning of one. -/
theorem stripTrailing_spacedMarkers :
    stripByOffsets? ("é[GH-#".toList ++ spacedMarkers) = some "é[GH-#".toList ∧
      stripTrailing ("é[GH-#".toList ++ spacedMarkers ++ spacedMarkers) = "é[GH-#".toList ∧
      stripTrailing "é[GH-#".toList = "é[GH-#".toList ∧
      ∀ before, "é[GH-#".toList ++ spacedMarkers = before ++ spacedMarkers →
        "é[GH-#".toList <+: before := by
  have hstrip : stripTrailing ("é[GH-#".toList ++ spacedMarkers) = "é[GH-#".toList := by
    decide +kernel
  obtain ⟨hoffsets, -, hshortest, -, -, hagain, hadded⟩ :=
    stripTrailing_shortest ("é[GH-#".toList ++ spacedMarkers)
  rw [hstrip] at hoffsets hshortest hagain hadded
  exact ⟨hoffsets, hadded _ isTrailer_spacedMarkers, hagain,
    fun before heq => hshortest before _ heq isTrailer_spacedMarkers⟩

end TrackedComments.Marker

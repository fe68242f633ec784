import Mathlib.Data.Nat.Find
import TrackedComments.Proofs.Pattern.Annotated
import TrackedComments.Proofs.Scan.Content

/-!
# Lines under the default pattern

The default pattern takes a line apart at its first heading with something after it. What follows
the heading, without the blanks in front, is the message, unless a block in brackets stands at its
end: of the brackets that open after the first character and before the last one but one, the first
begins the block.

## Main results

* `ScanPattern.ofString_defaultSource`: the expression that the default pattern stands for.
* `ScanPattern.captures_eq_none`, `ScanPattern.captures_of_block`,
  `ScanPattern.captures_of_no_block`: what its groups match.
* `ScanPattern.scanLine_defaultSource`: what it makes of a line.
-/

namespace TrackedComments

open Pattern

/-! ### Parts of a line -/

/-- The first annotation of a text: its heading is the leftmost one with something after it. -/
structure FirstHeading (text before head after : List Char) : Prop where
  eq : text = before ++ (head ++ after)
  heading : IsHeading head
  ne_nil : after ≠ []
  leftmost : ∀ before' head' after', text = before' ++ (head' ++ after') → IsHeading head' →
    after' ≠ [] → before.length ≤ before'.length

/-- Whether a block in brackets, with something inside and something before it, begins at an index
of a text and takes up the rest of it. -/
structure BlockAt (said : List Char) (index : Nat) : Prop where
  pos : 1 ≤ index
  le : index + 3 ≤ said.length
  opened : said[index]? = some '['
  closed : said.getLast? = some ']'

/-- A text with a heading that something follows has a first annotation. -/
theorem exists_firstHeading {text before head after : List Char}
    (h : text = before ++ (head ++ after)) (hhead : IsHeading head) (hne : after ≠ []) :
    ∃ before head after, FirstHeading text before head after := by
  classical
  have hexists : ∃ n, ∃ before head after, text = before ++ (head ++ after) ∧ IsHeading head ∧
      after ≠ [] ∧ before.length = n := ⟨_, before, head, after, h, hhead, hne, rfl⟩
  obtain ⟨before, head, after, h, hhead, hne, hlength⟩ := Nat.find_spec hexists
  refine ⟨before, head, after, h, hhead, hne, fun before' head' after' h' hhead' hne' => ?_⟩
  rw [hlength]
  exact Nat.find_min' hexists ⟨before', head', after', h', hhead', hne', rfl⟩

/-- What follows the heading, from its place in the text on. -/
theorem FirstHeading.drop_said {text before head after run said : List Char}
    (h : FirstHeading text before head after) (hafter : after = run ++ said) :
    text.drop (before.length + head.length + run.length) = said := by
  have hplace : text.drop before.length = head ++ (run ++ said) := by
    rw [h.eq, List.drop_left, hafter]
  exact Regex.drop_add_of_drop (Regex.drop_add_of_drop hplace)

/-- In a text that is trimmed at its end, more than blanks follows the heading, and what does is
trimmed too. -/
theorem FirstHeading.trimmed {text before head after : List Char}
    (h : FirstHeading text before head after) (htrim : Chars.trimEnd text = text) :
    Chars.trimStart after ≠ [] ∧
      Chars.trim (Chars.trimStart after) = Chars.trimStart after := by
  obtain ⟨run, hafter, hrun⟩ := Chars.exists_append_trimStart after
  have hlast : ∀ c ∈ after.getLast?, isSpace c = false := by
    have hend := Chars.trimEnd_eq_self_iff.mp htrim
    rwa [h.eq, ← List.append_assoc, List.getLast?_append_of_ne_nil _ h.ne_nil] at hend
  have hne : Chars.trimStart after ≠ [] := by
    intro hnil
    rw [hnil, List.append_nil] at hafter
    obtain ⟨c, hc⟩ := Option.ne_none_iff_exists'.mp (mt List.getLast?_eq_none_iff.mp h.ne_nil)
    have hblank := hrun c (hafter ▸ List.mem_of_getLast? hc)
    rw [hlast c hc] at hblank
    exact Bool.false_ne_true hblank
  refine ⟨hne, Chars.trim_eq_self_iff.mpr ⟨Chars.isSpace_of_mem_head?_trimStart _, ?_⟩⟩
  rwa [hafter, List.getLast?_append_of_ne_nil _ hne] at hlast

/-- A text with a block has a longest one. -/
theorem exists_first_blockAt {said : List Char} {index : Nat} (h : BlockAt said index) :
    ∃ index, BlockAt said index ∧ ∀ i < index, ¬ BlockAt said i := by
  classical
  have hexists : ∃ index, BlockAt said index := ⟨index, h⟩
  exact ⟨Nat.find hexists, Nat.find_spec hexists, fun i hi => Nat.find_min hexists hi⟩

/-- From where a block begins there is nothing but the block. -/
theorem BlockAt.isBlock {said : List Char} {index : Nat} (h : BlockAt said index) :
    IsBlock (said.drop index) (said.dropLast.drop (index + 1)) := by
  have hle := h.le
  obtain ⟨init, rfl⟩ := List.getLast?_eq_some_iff.mp h.closed
  rw [List.length_append, List.length_singleton] at hle
  have hdrop : (init ++ [']']).drop index = '[' :: (init ++ [']']).drop (index + 1) := by
    obtain ⟨hlt, hget⟩ := List.getElem?_eq_some_iff.mp h.opened
    rw [List.drop_eq_getElem_cons hlt, hget]
  rw [List.dropLast_concat]
  refine ⟨List.ne_nil_of_length_pos ?_, ?_⟩
  · rw [List.length_drop]
    omega
  · rw [hdrop, List.drop_append_of_le_length (by omega)]

/-- A block begins at every index but the first from where there is nothing else. -/
theorem blockAt_of_isBlock {said inside : List Char} {index : Nat} (hpos : 1 ≤ index)
    (h : IsBlock (said.drop index) inside) : BlockAt said index := by
  obtain ⟨hne, heq⟩ := h
  have hinside := List.length_pos_of_ne_nil hne
  have hlength := congrArg List.length heq
  simp only [List.length_drop, List.length_cons, List.length_append, List.length_nil] at hlength
  refine ⟨hpos, by omega, ?_, ?_⟩
  · rw [← List.head?_drop, heq, List.head?_cons]
  · rw [← List.take_append_drop index said, heq, ← List.cons_append, ← List.append_assoc,
      List.getLast?_concat]

/-! ### What the groups match -/

namespace ScanPattern

/-- The expression that the default pattern stands for. -/
theorem ofString_defaultSource :
    ofString defaultSource = .ok ⟨defaultSource, .ofRegex Regex.annotated 2⟩ := by
  rfl

variable {p : ScanPattern} {text before head after : List Char}

/-- The default pattern finds the annotation at the leftmost position with one. -/
theorem search_defaultSource (hp : ofString defaultSource = .ok p) (text : Array Char) :
    p.program.search text = (List.range (text.size + 1)).findSome? fun position =>
      Regex.annotated.first text .done position (Program.noSlots 2) := by
  rw [ofString_defaultSource] at hp
  obtain rfl := Except.ok.inj hp
  exact Program.search_ofRegex (by decide) 2 text

/-- Without a heading that something follows, nothing is found. -/
theorem captures_eq_none (hp : ofString defaultSource = .ok p)
    (h : ∀ before head after, text = before ++ (head ++ after) → IsHeading head → after = []) :
    p.captures text = none := by
  rw [captures, search_defaultSource hp, List.findSome?_eq_none_iff.mpr, Option.map_none]
  intro position _
  refine Regex.first_annotated_eq_none fun head after hhead hafter => ?_
  exact h (text.take position) head after (by rw [← hafter, List.take_append_drop]) hhead

/-- The first heading decides what is found, if the text is trimmed at its end: it is the body after
the heading that matches. -/
theorem captures_of_first_body (hp : ofString defaultSource = .ok p)
    (h : FirstHeading text before head after) {run said : List Char} (hrun : ∀ c ∈ run, isSpace c)
    (hafter : after = run ++ said) (hsaid : ∀ c ∈ said.head?, isSpace c = false) {position : Nat}
    (hposition : before.length + head.length + run.length = position) {slots : Slots}
    (hbody : Regex.body.first text.toArray .done position (Program.noSlots 2) = some slots) :
    p.captures text = some (slots.group text 1, slots.group text 2) := by
  subst hposition
  have hplace : text.drop before.length = head ++ after := by rw [h.eq, List.drop_left]
  have hlt : before.length < text.toArray.size + 1 := by
    rw [List.size_toArray, h.eq, List.length_append]
    omega
  rw [captures, search_defaultSource hp,
    findSome?_range_eq_some hlt _ fun position hposition => ?_, Option.map_some]
  · rw [Regex.first_annotated h.heading hplace]
    have hrest := Regex.drop_add_of_drop hplace
    rw [hafter] at hrest
    exact Regex.first_blanks_body hrun hsaid hrest hbody
  · -- a heading further left would be the first one
    refine Regex.first_annotated_eq_none fun head' after' hhead' hafter' => ?_
    by_contra hne
    have hle := h.leftmost (text.take position) head' after'
      (by rw [← hafter', List.take_append_drop]) hhead' hne
    rw [List.length_take] at hle
    omega

/-- A block after the first heading is found, the longest one that leaves a message. -/
theorem captures_of_block (hp : ofString defaultSource = .ok p) (hlf : '\n' ∉ text)
    (h : FirstHeading text before head after) {index : Nat}
    (hblock : BlockAt (Chars.trimStart after) index)
    (hfirst : ∀ i < index, ¬ BlockAt (Chars.trimStart after) i) :
    p.captures text = some (some ((Chars.trimStart after).take index),
      some ((Chars.trimStart after).dropLast.drop (index + 1))) := by
  obtain ⟨run, hafter, hrun⟩ := Chars.exists_append_trimStart after
  have hsaid := Chars.isSpace_of_mem_head?_trimStart after
  generalize Chars.trimStart after = said at hblock hfirst hafter hsaid
  have hdrop := h.drop_said hafter
  generalize hposition : before.length + head.length + run.length = position at hdrop
  obtain ⟨d, rfl⟩ : ∃ d, index = 1 + d := ⟨index - 1, by have := hblock.pos; omega⟩
  have hdrops : ∀ i, text.drop (position + 1 + i) = said.drop (1 + i) := by
    intro i
    rw [Nat.add_assoc, ← List.drop_drop, hdrop]
  have hinside : IsBlock (text.drop (position + 1 + d)) (said.dropLast.drop (1 + d + 1)) := by
    rw [hdrops]
    exact hblock.isBlock
  have hshorter : ∀ i < d, ∀ inside, ¬ IsBlock (text.drop (position + 1 + i)) inside := by
    intro i hi inside hinside
    rw [hdrops] at hinside
    exact hfirst (1 + i) (by omega) (blockAt_of_isBlock (by omega) hinside)
  have hmessage : (text.take (position + 1 + d)).drop position = said.take (1 + d) := by
    rw [List.drop_take, hdrop, Nat.add_assoc, Nat.add_sub_cancel_left]
  have hrest := Regex.drop_succ_of_drop hinside.eq
  rw [captures_of_first_body hp h hrun hafter hsaid hposition
      (Regex.first_body_of_block hlf hinside hshorter),
    group_withGroup_of_ne (by decide), group_withGroup_self (by decide),
    group_withGroup_self (by rw [size_withGroup]; decide), hmessage, List.drop_take, hrest,
    Nat.add_sub_cancel_left, List.take_left]

/-- Without a block after the first heading, all that follows is found. -/
theorem captures_of_no_block (hp : ofString defaultSource = .ok p) (hlf : '\n' ∉ text)
    (h : FirstHeading text before head after) (hne : Chars.trimStart after ≠ [])
    (hnone : ∀ index, ¬ BlockAt (Chars.trimStart after) index) :
    p.captures text = some (some (Chars.trimStart after), none) := by
  obtain ⟨run, hafter, hrun⟩ := Chars.exists_append_trimStart after
  have hsaid := Chars.isSpace_of_mem_head?_trimStart after
  generalize Chars.trimStart after = said at hne hnone hafter hsaid
  have hdrop := h.drop_said hafter
  generalize hposition : before.length + head.length + run.length = position at hdrop
  have hblock : ∀ i inside, ¬ IsBlock (text.drop (position + 1 + i)) inside := by
    intro i inside hinside
    rw [Nat.add_assoc, ← List.drop_drop, hdrop] at hinside
    exact hnone (1 + i) (blockAt_of_isBlock (by omega) hinside)
  rw [captures_of_first_body hp h hrun hafter hsaid hposition
      (Regex.first_body_of_not_block (hdrop ▸ hne) hlf hblock),
    group_withGroup_self (by decide), group_withGroup_of_ne (by decide), group_noSlots,
    List.take_length, hdrop]

/-! ### What becomes of a line -/

variable {line : List Char}

/-- The text that the pattern looks at. -/
def looksAt (line : List Char) : List Char :=
  Marker.stripTrailing (dropCarriageReturn line)

/-- A line has no record just when the pattern does not match what it looks at. -/
theorem scanLine_eq_none_iff_captures :
    p.scanLine line = none ↔ p.captures (looksAt line) = none := by
  rw [scanLine, Option.map_eq_none_iff, looksAt]

/-- The groups of a match give the message and the metadata of a line. -/
theorem scanLine_of_captures {message : List Char} {block : Option (List Char)}
    (h : p.captures (looksAt line) = some (some message, block)) :
    p.scanLine line = some
      { message := String.ofList (Chars.trim message)
        metadata := block.elim .empty Metadata.read
        issueNumber := Marker.find? line } := by
  rw [← find?_dropCarriageReturn line]
  exact congrArg (Option.map _) h

/-- There is no line feed in what the pattern looks at. -/
theorem not_mem_looksAt (h : '\n' ∉ line) : '\n' ∉ looksAt line := by
  intro hmem
  have hmem := (Marker.stripTrailing_prefix _).subset hmem
  rcases dropCarriageReturn_eq_or line with heq | heq
  · exact h (heq ▸ hmem)
  · exact h (heq ▸ List.mem_append_left _ hmem)

/-- What is said does not begin with a blank, however short it is cut. -/
theorem isSpace_of_mem_head?_take (after : List Char) (index : Nat) :
    ∀ c ∈ ((Chars.trimStart after).take index).head?, isSpace c = false :=
  Chars.isSpace_of_prefix (List.take_prefix _ _) (Chars.isSpace_of_mem_head?_trimStart after)

/-- The first block of what is said gives the metadata, and what stands before it the message. -/
theorem scanLine_of_block (hp : ofString defaultSource = .ok p) (hlf : '\n' ∉ line)
    (h : FirstHeading (looksAt line) before head after) {index : Nat}
    (hblock : BlockAt (Chars.trimStart after) index)
    (hfirst : ∀ i < index, ¬ BlockAt (Chars.trimStart after) i) :
    p.scanLine line = some
      { message := String.ofList (Chars.trimEnd ((Chars.trimStart after).take index))
        metadata := .read ((Chars.trimStart after).dropLast.drop (index + 1))
        issueNumber := Marker.find? line } := by
  rw [scanLine_of_captures (captures_of_block hp (not_mem_looksAt hlf) h hblock hfirst),
    Chars.trim_of_head? (isSpace_of_mem_head?_take after index)]
  rfl

/-- Without a block all that is said is the message. -/
theorem scanLine_of_no_block (hp : ofString defaultSource = .ok p) (hlf : '\n' ∉ line)
    (h : FirstHeading (looksAt line) before head after)
    (hnone : ∀ index, ¬ BlockAt (Chars.trimStart after) index) :
    p.scanLine line = some
      { message := String.ofList (Chars.trimStart after)
        metadata := .empty
        issueNumber := Marker.find? line } := by
  obtain ⟨hne, htrim⟩ := h.trimmed (Marker.trimEnd_stripTrailing _)
  rw [scanLine_of_captures (captures_of_no_block hp (not_mem_looksAt hlf) h hne hnone), htrim]
  rfl

/-- A first heading makes a match, and one that says something. -/
theorem exists_scanLine_of_firstHeading (hp : ofString defaultSource = .ok p) (hlf : '\n' ∉ line)
    (h : FirstHeading (looksAt line) before head after) :
    ∃ found, p.scanLine line = some found ∧ found.message ≠ "" := by
  obtain ⟨hne, -⟩ := h.trimmed (Marker.trimEnd_stripTrailing _)
  by_cases hblock : ∃ index, BlockAt (Chars.trimStart after) index
  · obtain ⟨index, hindex⟩ := hblock
    obtain ⟨index, hindex, hleast⟩ := exists_first_blockAt hindex
    refine ⟨_, scanLine_of_block hp hlf h hindex hleast, ?_⟩
    have htake : (Chars.trimStart after).take index ≠ [] := by
      have := hindex.pos
      rw [Ne, List.take_eq_nil_iff]
      exact fun hnil => hnil.elim (by omega) hne
    simpa using Chars.trimEnd_ne_nil htake (isSpace_of_mem_head?_take after index)
  · refine ⟨_, scanLine_of_no_block hp hlf h (not_exists.mp hblock), ?_⟩
    simpa using hne

/-- A line is found if a heading stands in it that something follows. -/
theorem scanLine_eq_none_iff (hp : ofString defaultSource = .ok p) (hlf : '\n' ∉ line) :
    p.scanLine line = none ↔ ∀ before head after, looksAt line = before ++ (head ++ after) →
      IsHeading head → after = [] := by
  constructor
  · intro hnone before head after heq hhead
    by_contra hne
    obtain ⟨before, head, after, hfirst⟩ := exists_firstHeading heq hhead hne
    obtain ⟨found, hfound, -⟩ := exists_scanLine_of_firstHeading hp hlf hfirst
    rw [hnone] at hfound
    simp at hfound
  · intro h
    exact scanLine_eq_none_iff_captures.mpr (captures_eq_none hp h)

/-- A line that is found has a first heading that something follows. -/
theorem exists_firstHeading_of_scanLine (hp : ofString defaultSource = .ok p) (hlf : '\n' ∉ line)
    {found : LineMatch} (h : p.scanLine line = some found) :
    ∃ before head after, FirstHeading (looksAt line) before head after := by
  have hsome := mt (scanLine_eq_none_iff hp hlf).mpr (by simp [h])
  simp only [not_forall] at hsome
  obtain ⟨before, head, after, heq, hhead, hne⟩ := hsome
  exact exists_firstHeading heq hhead hne

/-- A line that is found has a message. -/
theorem message_ne_of_scanLine (hp : ofString defaultSource = .ok p) (hlf : '\n' ∉ line)
    {found : LineMatch} (h : p.scanLine line = some found) : found.message ≠ "" := by
  obtain ⟨before, head, after, hfirst⟩ := exists_firstHeading_of_scanLine hp hlf h
  obtain ⟨found', hfound', hmessage⟩ := exists_scanLine_of_firstHeading hp hlf hfirst
  obtain rfl := Option.some.inj (h.symm.trans hfound')
  exact hmessage

/-- What the default pattern makes of a line. A line without a heading that something follows is
passed over. Otherwise the first such heading counts: what is said after it is the message, but for
the longest block at its end that leaves one, which holds the metadata. -/
theorem scanLine_defaultSource (hp : ofString defaultSource = .ok p) (hlf : '\n' ∉ line) :
    (p.scanLine line = none ↔ ∀ before head after, looksAt line = before ++ (head ++ after) →
      IsHeading head → after = []) ∧
    (∀ before head after, FirstHeading (looksAt line) before head after →
      Chars.trimStart after ≠ [] ∧
      (∀ index, BlockAt (Chars.trimStart after) index →
        (∀ i < index, ¬ BlockAt (Chars.trimStart after) i) →
        p.scanLine line = some
          { message := String.ofList (Chars.trimEnd ((Chars.trimStart after).take index))
            metadata := .read ((Chars.trimStart after).dropLast.drop (index + 1))
            issueNumber := Marker.find? line }) ∧
      ((∀ index, ¬ BlockAt (Chars.trimStart after) index) →
        p.scanLine line = some
          { message := String.ofList (Chars.trimStart after)
            metadata := .empty
            issueNumber := Marker.find? line })) ∧
    ∀ found, p.scanLine line = some found →
      (∃ before head after, FirstHeading (looksAt line) before head after) ∧
        found.message ≠ "" ∧ found.issueNumber = Marker.find? line := by
  refine ⟨scanLine_eq_none_iff hp hlf, fun before head after h => ⟨?_, ?_, ?_⟩, fun found h => ?_⟩
  · exact (h.trimmed (Marker.trimEnd_stripTrailing _)).1
  · intro index hblock hfirst
    exact scanLine_of_block hp hlf h hblock hfirst
  · exact scanLine_of_no_block hp hlf h
  · refine ⟨exists_firstHeading_of_scanLine hp hlf h, message_ne_of_scanLine hp hlf h, ?_⟩
    obtain ⟨groups, -, rfl⟩ := Option.map_eq_some_iff.mp h
    exact find?_dropCarriageReturn line

/-- A line with brackets in its message, a block and a marker. -/
def bracketedLine : List Char := "x(); // ERROR: a[0] is wrong [sev:high] [GH-#7]".toList

/-- The block of this line begins at its first bracket. -/
theorem scanLine_bracketedLine :
    ∃ p, ofString defaultSource = .ok p ∧ '\n' ∉ bracketedLine ∧
      p.scanLine bracketedLine =
        some ⟨"a", .ofList [("0] is wrong [sev", "high")], some 7⟩ := by
  have hlf : '\n' ∉ bracketedLine := by decide
  refine ⟨_, ofString_defaultSource, hlf, ?_⟩
  obtain ⟨-, hfirst, -⟩ := scanLine_defaultSource ofString_defaultSource hlf
  have hheading : FirstHeading (looksAt bracketedLine) "x(); ".toList "// ERROR:".toList
      " a[0] is wrong [sev:high]".toList := by
    refine ⟨by decide +kernel, ⟨[' '], List.all_eq_true.mp (by decide), rfl⟩, by decide, ?_⟩
    intro before' head' after' heq hhead' _
    have hslash : (looksAt bracketedLine)[before'.length]? = some '/' := by
      obtain ⟨blanks, -, rfl⟩ := hhead'
      simp [heq]
    have hnone : ∀ i < 5, (looksAt bracketedLine)[i]? ≠ some '/' := by decide +kernel
    by_contra hlt
    exact hnone _ (by simpa using hlt) hslash
  obtain ⟨-, hblock, -⟩ := hfirst _ _ _ hheading
  rw [hblock 1 ⟨by decide, by decide, by decide, by decide⟩ fun i hi hblock => ?_]
  · decide +kernel
  · have := hblock.pos
    omega

end ScanPattern

end TrackedComments

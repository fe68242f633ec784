import TrackedComments.Pattern.ScanPattern
import TrackedComments.Proofs.Pattern.Repetition

/-!
# Headings, bodies and blocks

The expression of annotated lines has a heading and a body, and a body may end in a block. Each part
is followed on its own, in a text that holds no line feed. The dot is lazy, so a body tries the
shortest message first and takes the longest block that leaves a message; the blanks before it are
greedy, and since something comes of every body that has a character, none of them is ever given
back.

## Main results

* `Regex.first_block`, `Regex.first_block_eq_none`: blocks.
* `Regex.first_body_of_block`, `Regex.first_body_of_not_block`: bodies.
* `Regex.first_annotated`, `Regex.first_annotated_eq_none`: headings.
-/

namespace TrackedComments.Pattern

/-- All characters but the line feed. -/
def dot : CharSet := ⟨[(0, 0x9), (0xb, CharSet.maxCodePoint)]⟩

/-- The dot stands for every character that is no line feed. -/
theorem contains_dot {c : Char} (h : c ≠ '\n') : dot.contains c = true := by
  have hne : c.toNat ≠ 10 := fun heq => h (Char.toNat_inj.mp heq)
  have hmax : c.toNat < 0x110000 := by
    have := c.valid
    unfold UInt32.isValidChar Nat.isValidChar at this
    have heq : c.toNat = c.val.toNat := rfl
    omega
  simp only [CharSet.contains, dot, CharSet.inRanges_cons, CharSet.inRanges_nil,
    CharSet.maxCodePoint, Bool.false_eq_true, or_false]
  omega

/-! ### The texts of groups -/

/-- The slots of a group that has matched between two positions. -/
def withGroup (slots : Slots) (index first last : Nat) : Slots :=
  (slots.setIfInBounds (2 * index) (some first)).setIfInBounds (2 * index + 1) (some last)

section Groups

variable {slots : Slots} {index : Nat}

/-- A match of a group does not change the number of slots. -/
theorem size_withGroup (first last : Nat) :
    (withGroup slots index first last).size = slots.size := by
  rw [withGroup, Array.size_setIfInBounds, Array.size_setIfInBounds]

/-- A group that has matched between two positions is what stands between them. -/
theorem group_withGroup_self (h : 2 * index + 1 < slots.size)
    (text : List Char) (first last : Nat) :
    (withGroup slots index first last).group text index = some ((text.take last).drop first) := by
  have hlast : (withGroup slots index first last)[2 * index + 1]? = some (some last) := by
    rw [withGroup, Array.getElem?_setIfInBounds_self_of_lt (by simpa using h)]
  have hfirst : (withGroup slots index first last)[2 * index]? = some (some first) := by
    rw [withGroup, Array.getElem?_setIfInBounds_ne (by omega),
      Array.getElem?_setIfInBounds_self_of_lt (by omega)]
  rw [Slots.group, hfirst, hlast]

/-- A match of one group does not change the others. -/
theorem group_withGroup_of_ne {other : Nat} (h : index ≠ other)
    (text : List Char) (first last : Nat) :
    (withGroup slots index first last).group text other = slots.group text other := by
  rw [Slots.group, Slots.group, withGroup, Array.getElem?_setIfInBounds_ne (by omega),
    Array.getElem?_setIfInBounds_ne (by omega), Array.getElem?_setIfInBounds_ne (by omega),
    Array.getElem?_setIfInBounds_ne (by omega)]

/-- Before a match no group has matched. -/
theorem group_noSlots (groups : Nat) (text : List Char) (index : Nat) :
    (Program.noSlots groups).group text index = none := by
  rw [Slots.group, Program.noSlots]
  simp only [Array.getElem?_replicate]
  split <;> simp_all

end Groups

/-! ### The expression -/

/-- The word of an annotation. -/
def headingWord : List Char := ['E', 'R', 'R', 'O', 'R', ':']

namespace Regex

/-- Any blanks. -/
def blanks : Regex := .star true (.set Unicode.space)

/-- Some characters, as few as will do. -/
def anything : Regex := .plus false (.set dot)

/-- A block in brackets. -/
def block : Regex :=
  .seq (.set (.singleton '[')) (.seq (.group 2 anything) (.set (.singleton ']')))

/-- A message, with or without a block after it, up to the end. -/
def body : Regex := .seq (.group 1 anything) (.seq (.opt true block) (.look .textEnd))

/-- What the default pattern says. -/
def annotated : Regex :=
  word ['/', '/'] (.seq blanks (word headingWord (.seq blanks body)))

variable {text rest : List Char} {position : Nat} {k : Continuation} {slots : Slots}

/-! ### The end -/

/-- The end of the text is found where nothing is left. -/
theorem first_textEnd :
    (look .textEnd).first text.toArray k position slots =
      if text.drop position = [] then k position slots else none := by
  have hhead : text.toArray[position]? = (text.drop position).head? := by
    rw [List.getElem?_toArray, List.head?_drop]
  rw [first, hhead]
  cases text.drop position with
  | nil => rfl
  | cons c rest => rfl

/-- A closing bracket at the end of the text is found where nothing else is left. -/
theorem first_closing :
    (set (.singleton ']')).first text.toArray ((look .textEnd).first text.toArray k) position
      slots = if text.drop position = [']'] then k (position + 1) slots else none := by
  cases h : text.drop position with
  | nil =>
    rw [first_set_of_drop_nil h, if_neg (List.cons_ne_nil _ _).symm]
  | cons c rest =>
    rw [first_set_of_drop h, first_textEnd, drop_succ_of_drop h]
    by_cases hc : c = ']'
    · rw [if_pos ((CharSet.contains_singleton _ _).mpr hc)]
      simp [hc]
    · rw [if_neg (mt (CharSet.contains_singleton _ _).mp hc)]
      simp [hc]

/-! ### Blocks -/

/-- Some characters are taken one, two, three and so on, until the rest matches. -/
theorem first_anything (hlf : '\n' ∉ text) :
    anything.first text.toArray k position slots =
      (List.range (text.drop position).length).findSome? fun d => k (position + 1 + d) slots := by
  refine first_plus_run (List.append_nil _).symm (fun c hc => contains_dot ?_) (by simp)
  rintro rfl
  exact hlf (List.mem_of_mem_drop hc)

/-- A block may end wherever a closing bracket ends the text. -/
theorem first_block_eq (hlf : '\n' ∉ text) (h : text.drop position = '[' :: rest) :
    block.first text.toArray ((look .textEnd).first text.toArray .done) position slots =
      (List.range rest.length).findSome? fun d =>
        if rest.drop (d + 1) = [']'] then
          some (withGroup slots 2 (position + 1) (position + 1 + 1 + d))
        else none := by
  have hrest := drop_succ_of_drop h
  rw [block, first, first_set_of_drop h, if_pos ((CharSet.contains_singleton _ _).mpr rfl), first,
    first, first_anything hlf, hrest]
  refine congrArg₂ _ (funext fun d => ?_) rfl
  have hdrop : text.drop (position + 1 + 1 + d) = rest.drop (d + 1) := by
    rw [← hrest, List.drop_drop]
    congr 1
    omega
  rw [first_closing, hdrop]
  rfl

end Regex

/-- Whether a text is a block in brackets, with something inside. -/
structure IsBlock (cs inside : List Char) : Prop where
  ne_nil : inside ≠ []
  eq : cs = '[' :: (inside ++ [']'])

/-- The first number at which a search finds something decides what it finds. -/
theorem findSome?_range_eq_some {α : Type} {f : Nat → Option α} {n i : Nat} {a : α} (hi : i < n)
    (ha : f i = some a) (hnone : ∀ j < i, f j = none) : (List.range n).findSome? f = some a := by
  obtain ⟨m, rfl⟩ : ∃ m, n = i + (m + 1) := ⟨n - i - 1, by omega⟩
  rw [List.range_add, List.range_succ_eq_map, List.map_cons, List.findSome?_eq_some_iff]
  exact ⟨_, _, _, rfl, ha, fun j hj => hnone j (List.mem_range.mp hj)⟩

namespace Regex

variable {text rest inside : List Char} {position : Nat} {slots : Slots}

/-- A block at the end of the text is found with what is inside. -/
theorem first_block (hlf : '\n' ∉ text) (h : IsBlock (text.drop position) inside) :
    block.first text.toArray ((look .textEnd).first text.toArray .done) position slots =
      some (withGroup slots 2 (position + 1) (position + 1 + inside.length)) := by
  obtain ⟨hne, heq⟩ := h
  obtain ⟨c, more, rfl⟩ := List.exists_cons_of_ne_nil hne
  rw [first_block_eq hlf heq]
  have hlt : more.length < (c :: more ++ [']']).length := by
    rw [List.length_append, List.length_cons]
    omega
  refine findSome?_range_eq_some hlt ?_ fun d hd => if_neg ?_
  · rw [if_pos (by simp), List.length_cons]
    congr 2
    omega
  · intro hdrop
    have hlength := congrArg List.length hdrop
    simp at hlength
    omega

/-- Without a block no block is found. -/
theorem first_block_eq_none (hlf : '\n' ∉ text)
    (h : ∀ inside, ¬ IsBlock (text.drop position) inside) :
    block.first text.toArray ((look .textEnd).first text.toArray .done) position slots = none := by
  cases hdrop : text.drop position with
  | nil => rw [block, first, first_set_of_drop_nil hdrop]
  | cons c rest =>
    rw [hdrop] at h
    by_cases hc : c = '['
    · subst hc
      rw [first_block_eq hlf hdrop, List.findSome?_eq_none_iff]
      intro d hd
      refine if_neg fun hend => h (rest.take (d + 1)) ⟨?_, ?_⟩
      · exact List.ne_nil_of_length_pos (by have := List.mem_range.mp hd; simp; omega)
      · rw [← hend, List.take_append_drop]
    · rw [block, first, first_set_of_drop hdrop, if_neg (mt (CharSet.contains_singleton _ _).mp hc)]

/-! ### Messages -/

/-- A message ends as early as a block or the end of the text follows it. -/
theorem first_body_eq (hlf : '\n' ∉ text) :
    body.first text.toArray .done position slots =
      (List.range (text.drop position).length).findSome? fun d =>
        (block.first text.toArray ((look .textEnd).first text.toArray .done) (position + 1 + d)
          (withGroup slots 1 position (position + 1 + d))).or
          (if text.drop (position + 1 + d) = [] then
            some (withGroup slots 1 position (position + 1 + d)) else none) := by
  rw [body, first, first, first_anything hlf]
  refine congrArg₂ _ (funext fun d => ?_) rfl
  rw [first, first, prefer, if_pos rfl, first_textEnd]
  rfl

/-- The block of a body is the longest one at the end that leaves something before it. -/
theorem first_body_of_block {d : Nat} (hlf : '\n' ∉ text)
    (h : IsBlock (text.drop (position + 1 + d)) inside)
    (hfirst : ∀ i < d, ∀ inside, ¬ IsBlock (text.drop (position + 1 + i)) inside) :
    body.first text.toArray .done position slots =
      some (withGroup (withGroup slots 1 position (position + 1 + d)) 2 (position + 1 + d + 1)
        (position + 1 + d + 1 + inside.length)) := by
  have hlt : position + 1 + d < text.length := lt_length_of_drop h.eq
  rw [first_body_eq hlf]
  refine findSome?_range_eq_some (i := d) ?_ ?_ fun i hi => ?_
  · rw [List.length_drop]
    omega
  · rw [first_block hlf h, Option.some_or]
  · rw [first_block_eq_none hlf (hfirst i hi), Option.none_or, if_neg]
    rw [List.drop_eq_nil_iff]
    omega

/-- Without a block after it the message goes on to the end of the text. -/
theorem first_body_of_not_block (hne : text.drop position ≠ []) (hlf : '\n' ∉ text)
    (h : ∀ i inside, ¬ IsBlock (text.drop (position + 1 + i)) inside) :
    body.first text.toArray .done position slots =
      some (withGroup slots 1 position text.length) := by
  have hlt : position < text.length := by
    rw [Ne, List.drop_eq_nil_iff] at hne
    omega
  have hnone : ∀ i, block.first text.toArray ((look .textEnd).first text.toArray .done)
      (position + 1 + i) (withGroup slots 1 position (position + 1 + i)) = none :=
    fun i => first_block_eq_none hlf (h i)
  rw [first_body_eq hlf]
  refine findSome?_range_eq_some (i := text.length - position - 1) ?_ ?_ fun i hi => ?_
  · rw [List.length_drop]
    omega
  · have hend : position + 1 + (text.length - position - 1) = text.length := by omega
    rw [hnone, Option.none_or, hend, if_pos List.drop_length]
  · rw [hnone, Option.none_or, if_neg]
    rw [List.drop_eq_nil_iff]
    omega

/-- A message is not empty. -/
theorem first_body_of_drop_nil (h : text.drop position = []) :
    body.first text.toArray k position slots = none := by
  rw [body, first, first, anything, first, first_set_of_drop_nil h]

end Regex

/-- Whether a text is the heading of an annotation: two slashes and the word, with any blanks
between them. -/
def IsHeading (cs : List Char) : Prop :=
  ∃ blanks, (∀ c ∈ blanks, isSpace c) ∧ cs = '/' :: '/' :: (blanks ++ headingWord)

namespace Regex

variable {text rest : List Char} {position : Nat} {k : Continuation} {slots : Slots}

/-- Blanks before a word are passed over, all of them. -/
theorem first_blanks_word {run : List Char} (hrun : ∀ c ∈ run, isSpace c)
    (hrest : ∀ c ∈ rest.head?, isSpace c = false) (h : text.drop position = run ++ rest)
    (r : Regex) :
    (seq blanks (word headingWord r)).first text.toArray k position slots =
      (word headingWord r).first text.toArray k (position + run.length) slots := by
  have hset : ∀ c, Unicode.space.contains c = isSpace c := Unicode.contains_space
  rw [first, blanks, first_star_run h (by simpa [hset] using hrun) (by simpa [hset] using hrest),
    List.findSome?_eq_none_iff.mpr, Option.or_none]
  intro d hd
  rw [List.mem_reverse, List.mem_range] at hd
  -- a blank that were given back would be the first letter of the word
  refine first_word_eq_none fun hprefix => ?_
  rw [← List.drop_drop, h, List.drop_append_of_le_length (Nat.le_of_lt hd),
    List.drop_eq_getElem_cons hd, List.cons_append] at hprefix
  obtain ⟨heq, -⟩ := List.cons_prefix_cons.mp hprefix
  have hblank := hrun _ (List.getElem_mem hd)
  rw [← heq] at hblank
  exact absurd hblank (by decide)

/-- After its heading an annotation goes on with the blanks there and its body. -/
theorem first_annotated {head : List Char} (hhead : IsHeading head)
    (h : text.drop position = head ++ rest) :
    annotated.first text.toArray k position slots =
      (seq blanks body).first text.toArray k (position + head.length) slots := by
  obtain ⟨run, hrun, rfl⟩ := hhead
  have hslashes : text.drop position = ['/', '/'] ++ (run ++ (headingWord ++ rest)) := by
    simpa using h
  have hblanks := drop_add_of_drop hslashes
  have hword := drop_add_of_drop hblanks
  have hhead : ∀ c ∈ (headingWord ++ rest).head?, isSpace c = false := by
    simp [headingWord, isSpace]
  rw [annotated, first_word hslashes, first_blanks_word hrun hhead hblanks, first_word hword]
  congr 1
  simp
  omega

/-- Nothing comes of a text that does not begin with a heading. -/
theorem first_annotated_of_not_heading
    (h : ∀ head, IsHeading head → ¬ head <+: text.drop position) :
    annotated.first text.toArray k position slots = none := by
  by_cases hslashes : ['/', '/'] <+: text.drop position
  · obtain ⟨rest, hrest⟩ := hslashes
    have hsplit : text.drop (position + 2) = rest.takeWhile isSpace ++ rest.dropWhile isSpace := by
      rw [List.takeWhile_append_dropWhile]
      exact drop_add_of_drop hrest.symm
    have hrun : ∀ c ∈ rest.takeWhile isSpace, isSpace c := List.all_eq_true.mp List.all_takeWhile
    have hhead : ∀ c ∈ (rest.dropWhile isSpace).head?, isSpace c = false := by
      intro c hc
      have hnot := List.head?_dropWhile_not isSpace rest
      rw [hc] at hnot
      exact hnot
    rw [annotated, first_word hrest.symm]
    refine (first_blanks_word hrun hhead hsplit _).trans (first_word_eq_none fun hword => ?_)
    rw [drop_add_of_drop hsplit] at hword
    obtain ⟨more, hmore⟩ := hword
    refine h _ ⟨_, hrun, rfl⟩ ⟨more, ?_⟩
    rw [← hrest, List.cons_append, List.cons_append, List.append_assoc, hmore,
      List.takeWhile_append_dropWhile]
    rfl
  · exact first_word_eq_none hslashes

/-- The blanks in front of a body are no part of it. -/
theorem first_blanks_body {run : List Char} {result : Slots} (hrun : ∀ c ∈ run, isSpace c)
    (hrest : ∀ c ∈ rest.head?, isSpace c = false) (h : text.drop position = run ++ rest)
    (hbody : body.first text.toArray k (position + run.length) slots = some result) :
    (seq blanks body).first text.toArray k position slots = some result := by
  have hset : ∀ c, Unicode.space.contains c = isSpace c := Unicode.contains_space
  rw [first, blanks, first_star_run h (by simpa [hset] using hrun) (by simpa [hset] using hrest),
    hbody, Option.some_or]

/-- An annotation says something. -/
theorem first_blanks_body_of_drop_nil (h : text.drop position = []) :
    (seq blanks body).first text.toArray k position slots = none := by
  have hrun : text.drop position = [] ++ [] := h
  rw [first, blanks, first_star_run hrun (by simp) (by simp), List.length_nil, Nat.add_zero,
    first_body_of_drop_nil h]
  rfl

/-- Nothing comes of a heading that nothing follows, or of anything else that is no heading. -/
theorem first_annotated_eq_none
    (h : ∀ head after, IsHeading head → text.drop position = head ++ after → after = []) :
    annotated.first text.toArray k position slots = none := by
  by_cases hhead : ∃ head, IsHeading head ∧ head <+: text.drop position
  · obtain ⟨head, hhead, after, hafter⟩ := hhead
    obtain rfl := h head after hhead hafter.symm
    rw [first_annotated hhead hafter.symm]
    exact first_blanks_body_of_drop_nil (drop_add_of_drop hafter.symm)
  · exact first_annotated_of_not_heading fun head hhead' hprefix => hhead ⟨head, hhead', hprefix⟩

end Regex

end TrackedComments.Pattern

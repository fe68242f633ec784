import TrackedComments.Proofs.Metadata
import TrackedComments.Proofs.Scan.DefaultPattern

/-!
# Comments with a block

A comment that is written with a message and a block of pairs is found with this message and these
pairs exactly if the message has no opening bracket after its first character: such a bracket would
begin the block.

## Main results

* `Marker.stripTrailing_of_block`: a block that holds a colon is no marker.
* `ScanPattern.scanLine_blockLine_iff`: which messages are found as they were written.
* `ScanPattern.scanLine_blockLine_ne`: a message that is not.
-/

namespace TrackedComments

open Pattern

/-! ### Blocks and markers -/

namespace Marker

/-- Nothing but digits stands in a marker between the sign for numbers and the closing bracket, and
no colon before. -/
theorem dropReversed_of_block {inside : List Char} (hcolon : ':' ∈ inside) (hopen : '[' ∉ inside)
    (before : List Char) : dropReversed (']' :: (inside ++ '[' :: before)) = none := by
  rw [Option.eq_none_iff_forall_ne_some]
  intro rest hsome
  obtain ⟨digits, -, hdigits, heq⟩ := dropReversed_eq_some_iff.mp hsome
  have hmarker : ∀ c ∈ digits ++ ['#', '-', 'H', 'G'], c ≠ '[' ∧ c ≠ ':' := by
    intro c hc
    rcases List.mem_append.mp hc with hc | hc
    · have hdigit := hdigits c hc
      exact ⟨fun h => absurd (h ▸ hdigit) (by decide), fun h => absurd (h ▸ hdigit) (by decide)⟩
    · have hall : ∀ c ∈ ['#', '-', 'H', 'G'], c ≠ '[' ∧ c ≠ ':' := by simp
      exact hall c hc
  have heq : inside ++ '[' :: before = (digits ++ ['#', '-', 'H', 'G']) ++ '[' :: rest := by
    rw [(List.cons.inj heq).2]
    simp [opening]
  have hcut := Chars.splitOnce_append_cons hopen before
  rw [heq, Chars.splitOnce_append_cons (fun h => (hmarker _ h).1 rfl), Option.some_inj,
    Prod.mk.injEq] at hcut
  rw [← hcut.1] at hcolon
  exact (hmarker _ hcolon).2 rfl

/-- A block that holds a colon is no marker. -/
theorem stripTrailing_of_block (before : List Char) {inside : List Char}
    (hcolon : ':' ∈ inside) (hopen : '[' ∉ inside) :
    stripTrailing (before ++ '[' :: (inside ++ [']'])) = before ++ '[' :: (inside ++ [']']) := by
  have hreverse : (before ++ '[' :: (inside ++ [']'])).reverse =
      ']' :: (inside.reverse ++ '[' :: before.reverse) := by simp
  have hnone : dropReversed (']' :: (inside.reverse ++ '[' :: before.reverse)) = none :=
    dropReversed_of_block (by simpa using hcolon) (by simpa using hopen) _
  rw [stripTrailing, hreverse, stripReversed_of_dropReversed_eq_none (by rfl) hnone, ← hreverse,
    List.reverse_reverse]

end Marker

/-! ### What is inside a block -/

namespace Metadata

variable {pairs : List (String × String)}

/-- The text of a block is made of semicolons and of characters that are not reserved. -/
theorem of_mem_blockText (hpairs : ∀ e ∈ pairs, IsKey e.1.toList ∧ IsValue e.2.toList) :
    ∀ c ∈ blockText pairs, c = ';' ∨ isReserved c = false := by
  induction pairs with
  | nil => simp [blockText]
  | cons e rest ih =>
    obtain ⟨hkey, hvalue⟩ := hpairs e List.mem_cons_self
    have hfirst := isReserved_of_mem_pairText hkey hvalue
    cases rest with
    | nil =>
      rw [blockText_singleton]
      exact fun c hc => .inr (hfirst c hc)
    | cons e' rest =>
      intro c hc
      rw [blockText_cons_cons, List.mem_append, List.mem_cons, List.mem_cons] at hc
      rcases hc with hc | rfl | rfl | hc
      · exact .inr (hfirst c hc)
      · exact .inl rfl
      · exact .inr (by decide)
      · exact ih (fun d hd => hpairs d (List.mem_cons_of_mem e hd)) c hc

/-- No reserved character but the semicolon stands in the text of a block. -/
theorem not_mem_blockText (hpairs : ∀ e ∈ pairs, IsKey e.1.toList ∧ IsValue e.2.toList) {c : Char}
    (hne : c ≠ ';') (hc : isReserved c = true) : c ∉ blockText pairs := by
  intro hmem
  rcases of_mem_blockText hpairs c hmem with heq | hnot
  · exact hne heq
  · simp [hnot] at hc

/-- The text of a block with a pair holds a colon. -/
theorem colon_mem_blockText (hne : pairs ≠ []) : ':' ∈ blockText pairs := by
  obtain ⟨e, rest, rfl⟩ := List.exists_cons_of_ne_nil hne
  have hpair : ':' ∈ pairText e := List.mem_append_right _ List.mem_cons_self
  cases rest with
  | nil => rwa [blockText_singleton]
  | cons e' rest =>
    rw [blockText_cons_cons]
    exact List.mem_append_left _ hpair

end Metadata

/-! ### Lines with a block -/

/-- The heading as it is usually written. -/
def plainHeading : List Char := '/' :: '/' :: ' ' :: headingWord

/-- The usual heading is a heading. -/
theorem isHeading_plainHeading : IsHeading plainHeading :=
  ⟨[' '], List.all_eq_true.mp (by decide), rfl⟩

/-- A message with a block of pairs after it. -/
def blockBody (message : List Char) (pairs : List (String × String)) : List Char :=
  message ++ ' ' :: '[' :: (Metadata.blockText pairs ++ [']'])

/-- The line of a comment that gives a message and a block of pairs. -/
def blockLine (message : List Char) (pairs : List (String × String)) : List Char :=
  plainHeading ++ ' ' :: blockBody message pairs

/-- Whether a text can be the message of a line. -/
structure IsMessage (cs : List Char) : Prop where
  ne_nil : cs ≠ []
  trimmed : Chars.trim cs = cs
  oneLine : '\n' ∉ cs

section Blocks

variable {message : List Char} {pairs : List (String × String)}

/-- The line begins with its only heading. -/
theorem firstHeading_blockLine :
    FirstHeading (blockLine message pairs) [] plainHeading (' ' :: blockBody message pairs) := by
  refine ⟨rfl, isHeading_plainHeading, List.cons_ne_nil _ _, ?_⟩
  intro _ _ _ _ _ _
  exact Nat.zero_le _

/-- A message with a block ends in the closing bracket. -/
theorem getLast?_blockBody : (blockBody message pairs).getLast? = some ']' := by
  have hbody : blockBody message pairs =
      (message ++ ' ' :: '[' :: Metadata.blockText pairs) ++ [']'] := by simp [blockBody]
  rw [hbody, List.getLast?_concat]

/-- A message with a block has a blank and two brackets besides both. -/
theorem length_blockBody :
    (blockBody message pairs).length = message.length + (Metadata.blockText pairs).length + 3 := by
  simp [blockBody]
  omega

/-- Of the blanks before the message nothing is left. -/
theorem trimStart_blockBody (h : IsMessage message) :
    Chars.trimStart (' ' :: blockBody message pairs) = blockBody message pairs := by
  have hblank : isSpace ' ' = true := by decide
  rw [Chars.trimStart, List.dropWhile_cons_of_pos hblank, ← Chars.trimStart,
    Chars.trimStart_eq_self_iff]
  rw [blockBody, List.head?_append_of_ne_nil _ h.ne_nil]
  exact (Chars.trim_eq_self_iff.mp h.trimmed).1

/-- There is no line feed in the line. -/
theorem not_mem_blockLine (h : IsMessage message)
    (hpairs : ∀ e ∈ pairs, Metadata.IsKey e.1.toList ∧ Metadata.IsValue e.2.toList) :
    '\n' ∉ blockLine message pairs := by
  have hinside := Metadata.not_mem_blockText hpairs (by decide : '\n' ≠ ';') (by decide)
  have hheading : '\n' ∉ plainHeading := by decide
  simp [blockLine, blockBody, h.oneLine, hinside, hheading]

namespace ScanPattern

/-- The pattern looks at the whole line: the block is no marker that it would take off. -/
theorem looksAt_blockLine (hne : pairs ≠ [])
    (hpairs : ∀ e ∈ pairs, Metadata.IsKey e.1.toList ∧ Metadata.IsValue e.2.toList) :
    looksAt (blockLine message pairs) = blockLine message pairs := by
  have hline : blockLine message pairs = (plainHeading ++ ' ' :: (message ++ [' '])) ++
      '[' :: (Metadata.blockText pairs ++ [']']) := by
    simp [blockLine, blockBody]
  have hopen := Metadata.not_mem_blockText hpairs (by decide : '[' ≠ ';') (by decide)
  have hend : (blockLine message pairs).getLast? = some ']' := by
    rw [blockLine, ← List.singleton_append, ← List.append_assoc, List.getLast?_append,
      getLast?_blockBody, Option.some_or]
  have hlast : dropCarriageReturn (blockLine message pairs) = blockLine message pairs := by
    refine if_neg ?_
    rw [hend]
    decide
  rw [looksAt, hlast, hline,
    Marker.stripTrailing_of_block _ (Metadata.colon_mem_blockText hne) hopen]

/-! ### Where the block begins -/

/-- A bracket in the message begins a block. -/
theorem blockAt_of_message {index : Nat} (hpos : 1 ≤ index) (h : message[index]? = some '[') :
    BlockAt (blockBody message pairs) index := by
  obtain ⟨hlt, -⟩ := List.getElem?_eq_some_iff.mp h
  refine ⟨hpos, ?_, ?_, getLast?_blockBody⟩
  · rw [length_blockBody]
    omega
  · rw [blockBody, List.getElem?_append_left hlt, h]

/-- A block stands where it was put. -/
theorem blockAt_blockBody (hne : pairs ≠ []) :
    BlockAt (blockBody message pairs) (message.length + 1) := by
  have hinside := List.length_pos_of_mem (Metadata.colon_mem_blockText hne)
  refine ⟨by omega, ?_, ?_, getLast?_blockBody⟩
  · rw [length_blockBody]
    omega
  · rw [blockBody, List.getElem?_append_right (by omega), Nat.add_sub_cancel_left]
    rfl

/-- Without a bracket in the message, but for its first character, the block begins where it was
put. -/
theorem not_blockAt_of_lt (h : '[' ∉ message.tail) :
    ∀ i < message.length + 1, ¬ BlockAt (blockBody message pairs) i := by
  intro i hi hblock
  have hopened := hblock.opened
  have hpos := hblock.pos
  rcases Nat.lt_succ_iff_lt_or_eq.mp hi with hlt | rfl
  · rw [blockBody, List.getElem?_append_left hlt] at hopened
    refine h (List.mem_of_getElem? (i := i - 1) ?_)
    rw [List.getElem?_tail, Nat.sub_add_cancel hpos, hopened]
  · rw [blockBody, List.getElem?_append_right (Nat.le_refl _), Nat.sub_self] at hopened
    simp at hopened

/-! ### What is found -/

variable {p : ScanPattern}

/-- What is found in the line is cut where the first block begins. -/
theorem scanLine_blockLine (hp : ofString defaultSource = .ok p) (hmessage : IsMessage message)
    (hne : pairs ≠ [])
    (hpairs : ∀ e ∈ pairs, Metadata.IsKey e.1.toList ∧ Metadata.IsValue e.2.toList) {index : Nat}
    (hblock : BlockAt (blockBody message pairs) index)
    (hfirst : ∀ i < index, ¬ BlockAt (blockBody message pairs) i) :
    (p.scanLine (blockLine message pairs)).map (fun found => (found.message, found.metadata)) =
      some (String.ofList (Chars.trimEnd ((blockBody message pairs).take index)),
        .read ((blockBody message pairs).dropLast.drop (index + 1))) := by
  have hheading : FirstHeading (looksAt (blockLine message pairs)) [] plainHeading
      (' ' :: blockBody message pairs) := by
    rw [looksAt_blockLine hne hpairs]
    exact firstHeading_blockLine
  rw [← trimStart_blockBody hmessage] at hblock hfirst ⊢
  rw [scanLine_of_block hp (not_mem_blockLine hmessage hpairs) hheading hblock hfirst]
  rfl

/-- Before the block that was put there stands the message. -/
theorem trimEnd_take_blockBody (h : IsMessage message) :
    Chars.trimEnd ((blockBody message pairs).take (message.length + 1)) = message := by
  have htake : (blockBody message pairs).take (message.length + 1) = message ++ [' '] := by
    rw [blockBody, List.take_length_add_append]
    rfl
  have hblank : ∀ c ∈ [' '], isSpace c := List.all_eq_true.mp (by decide)
  rw [htake, Chars.trimEnd_append_of_isSpace message hblank, Chars.trimEnd_eq_self_iff]
  exact (Chars.trim_eq_self_iff.mp h.trimmed).2

/-- What stands between the brackets is the text of the block. -/
theorem drop_dropLast_blockBody :
    (blockBody message pairs).dropLast.drop (message.length + 1 + 1) =
      Metadata.blockText pairs := by
  have hbody : blockBody message pairs =
      (message ++ ' ' :: '[' :: Metadata.blockText pairs) ++ [']'] := by simp [blockBody]
  rw [hbody, List.dropLast_concat, Nat.add_assoc, List.drop_length_add_append]
  rfl

/-- A comment that is written with a block is found with its message and the pairs of the block
exactly if the message has no opening bracket after its first character. -/
theorem scanLine_blockLine_iff (hp : ofString defaultSource = .ok p) {message : String}
    (hmessage : IsMessage message.toList) {m : Metadata} (hperm : pairs.Perm m.entries)
    (hne : pairs ≠ [])
    (hpairs : ∀ e ∈ pairs, Metadata.IsKey e.1.toList ∧ Metadata.IsValue e.2.toList) :
    (p.scanLine (blockLine message.toList pairs)).map (fun found => (found.message, found.metadata))
        = some (message, m) ↔
      '[' ∉ message.toList.tail := by
  constructor
  · intro hfound hmem
    obtain ⟨index, hindex⟩ := List.getElem?_of_mem hmem
    rw [List.getElem?_tail] at hindex
    obtain ⟨hlt, -⟩ := List.getElem?_eq_some_iff.mp hindex
    have hbracket : BlockAt (blockBody message.toList pairs) (index + 1) :=
      blockAt_of_message (by omega) hindex
    obtain ⟨first, hblock, hfirst⟩ := exists_first_blockAt hbracket
    have hle : first ≤ index + 1 := by
      by_contra hgt
      exact hfirst (index + 1) (by omega) hbracket
    rw [scanLine_blockLine hp hmessage hne hpairs hblock hfirst, Option.some_inj,
      Prod.mk.injEq] at hfound
    -- the message that is found ends before the bracket
    have hlength := congrArg (fun s : String => s.toList.length) hfound.1
    have hshort := (Chars.trimEnd_prefix ((blockBody message.toList pairs).take first)).length_le
    rw [List.length_take] at hshort
    rw [String.toList_ofList] at hlength
    omega
  · intro hnot
    rw [scanLine_blockLine hp hmessage hne hpairs (blockAt_blockBody hne) (not_blockAt_of_lt hnot),
      trimEnd_take_blockBody hmessage, String.ofList_toList, drop_dropLast_blockBody,
      Metadata.read_blockText hperm hne hpairs]

/-- The line `// ERROR: [x] fix auth [sev:alta; area:auth]` is found as it was written. -/
theorem scanLine_blockLine_fixAuth :
    ∃ p, ofString defaultSource = .ok p ∧ IsMessage "[x] fix auth".toList ∧
      [("sev", "alta"), ("area", "auth")].Perm
        (Metadata.ofList [("area", "auth"), ("sev", "alta")]).entries ∧
      (∀ e ∈ [("sev", "alta"), ("area", "auth")],
        Metadata.IsKey e.1.toList ∧ Metadata.IsValue e.2.toList) ∧
      (p.scanLine (blockLine "[x] fix auth".toList [("sev", "alta"), ("area", "auth")])).map
          (fun found => (found.message, found.metadata)) =
        some ("[x] fix auth", .ofList [("area", "auth"), ("sev", "alta")]) := by
  have hmessage : IsMessage "[x] fix auth".toList := ⟨by decide, by decide, by decide⟩
  have hperm : [("sev", "alta"), ("area", "auth")].Perm
      (Metadata.ofList [("area", "auth"), ("sev", "alta")]).entries := .swap _ _ _
  have hpairs : ∀ e ∈ [("sev", "alta"), ("area", "auth")],
      Metadata.IsKey e.1.toList ∧ Metadata.IsValue e.2.toList := by decide
  refine ⟨_, ofString_defaultSource, hmessage, hperm, hpairs, ?_⟩
  have hiff := scanLine_blockLine_iff ofString_defaultSource hmessage hperm (by decide) hpairs
  exact hiff.mpr (by decide)

/-- The line `// ERROR: a[0] is wrong [sev:alta]` is not: its block begins at the first bracket. -/
theorem scanLine_blockLine_ne :
    ∃ p, ofString defaultSource = .ok p ∧ IsMessage "a[0] is wrong".toList ∧
      Marker.isOpenedIn "a[0] is wrong".toList = false ∧
      Metadata.IsKey "sev".toList ∧ Metadata.IsValue "alta".toList ∧
      blockLine "a[0] is wrong".toList [("sev", "alta")] =
        "// ERROR: a[0] is wrong [sev:alta]".toList ∧
      (p.scanLine (blockLine "a[0] is wrong".toList [("sev", "alta")])).map
          (fun found => (found.message, found.metadata)) =
        some ("a", .ofList [("0] is wrong [sev", "alta")]) ∧
      (p.scanLine (blockLine "a[0] is wrong".toList [("sev", "alta")])).map
          (fun found => (found.message, found.metadata)) ≠
        some ("a[0] is wrong", .ofList [("sev", "alta")]) := by
  have hmessage : IsMessage "a[0] is wrong".toList := ⟨by decide, by decide, by decide⟩
  have hfirst : ∀ i < 1, ¬ BlockAt (blockBody "a[0] is wrong".toList [("sev", "alta")]) i := by
    intro i hi hblock
    have hpos := hblock.pos
    omega
  have hfound := scanLine_blockLine ofString_defaultSource hmessage (by decide) (by decide)
    (blockAt_of_message (Nat.le_refl 1) (by decide)) hfirst
  have hscan := hfound.trans (by decide +kernel :
    _ = some ("a", Metadata.ofList [("0] is wrong [sev", "alta")]))
  refine ⟨_, ofString_defaultSource, hmessage, by decide, by decide, by decide, by decide, hscan,
    ?_⟩
  rw [hscan]
  decide +kernel

end ScanPattern

end Blocks

end TrackedComments

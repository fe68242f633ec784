import Mathlib.Tactic.Common
import TrackedComments.Proofs.Text.Printed
import TrackedComments.Toml.Writer

/-!
# Written TOML strings read back

Whatever the form that a text is written in, the reader finds the text again and stops right after
its closing delimiter. Forms with escapes hold every text. Forms without hold texts of characters
that stand for themselves, and a form is chosen only for texts that it holds.

Between three delimiters the reader looks ahead for the end of the string: up to two delimiters in
front of the closing ones belong to the text, and a written text never holds three in a row.

## Main results

* `readBasic_flatMap_escapeLine`, `readLiteral_append`, `readTripleBasic_escapeLines`,
  `readTripleLiteral_append`: the four forms.
* `StringForm.fits_choose`: the chosen form holds the text.
* `readString?_writeString`: a written string reads as its text.
-/

namespace TrackedComments.Toml

/-! ### Escapes -/

/-- Whether characters are read as a character after a backslash. None of them is a blank or a line
break, which a backslash would take away. -/
def Escapes (written : List Char) (c : Char) : Prop :=
  ∀ rest, readEscape (written ++ rest) = some (c, rest) ∧
    dropNewline? ((written ++ rest).dropWhile isBlank) = none

/-- A hexadecimal digit has the value that it is written for. -/
theorem hexValue?_hexDigit : ∀ n < 16, hexValue? (hexDigit n) = some n := by
  decide

/-- Two hexadecimal digits after two zeros are read as the character with that code point. -/
theorem readCode_hexDigits {c : Char} (h : c.toNat < 256) (rest : List Char) :
    readCode 4 ('0' :: '0' :: hexDigit (c.toNat / 16) :: hexDigit (c.toNat % 16) :: rest) =
      some (c, rest) := by
  have hzero : hexValue? '0' = some 0 := rfl
  have hcode : c.toNat / 16 * 16 + c.toNat % 16 = c.toNat := by omega
  have hvalid : c.toNat.isValidChar := c.valid
  simp [readCode, hzero, hexValue?_hexDigit (c.toNat / 16) (by omega),
    hexValue?_hexDigit (c.toNat % 16) (by omega), hcode, hvalid, Char.ofNat_toNat]

/-- A character that is no rare control character may stand in a text, line breaks apart. -/
theorem isTextChar_of_not_rare {c : Char} (h : isRareControl c = false) (hlf : c ≠ '\n') :
    isTextChar c := by
  by_cases ht : c = '\t'
  · subst ht
    rfl
  · have hcommon : ¬ (c.toNat < 0x20 ∨ c.toNat = 0x7f) := by
      simpa [isRareControl, ht, hlf] using h
    simp only [isTextChar, Bool.or_eq_true, Bool.and_eq_true, decide_eq_true_eq, bne_iff_ne]
    omega

/-- A character stands for itself or is escaped. -/
theorem escapeChar_cases {c : Char} (hlf : c ≠ '\n') :
    (escapeChar c = [c] ∧ isTextChar c ∧ c ≠ '\\') ∨
      ∃ written, escapeChar c = '\\' :: written ∧ Escapes written c := by
  unfold escapeChar
  split_ifs with hb ht hf hr hback hrare
  · subst hb; exact .inr ⟨_, rfl, fun _ => ⟨rfl, rfl⟩⟩
  · subst ht; exact .inr ⟨_, rfl, fun _ => ⟨rfl, rfl⟩⟩
  · subst hf; exact .inr ⟨_, rfl, fun _ => ⟨rfl, rfl⟩⟩
  · subst hr; exact .inr ⟨_, rfl, fun _ => ⟨rfl, rfl⟩⟩
  · subst hback; exact .inr ⟨_, rfl, fun _ => ⟨rfl, rfl⟩⟩
  · have hlow : c.toNat < 256 := by
      simp only [isRareControl, Bool.and_eq_true, Bool.or_eq_true, decide_eq_true_eq,
        beq_iff_eq] at hrare
      omega
    exact .inr ⟨_, rfl, fun rest => ⟨readCode_hexDigits hlow rest, rfl⟩⟩
  · exact .inl ⟨rfl, isTextChar_of_not_rare (by simpa using hrare) hlf, hback⟩

/-! ### Strings on one line -/

/-- In a string of one line a character stands for itself or is escaped, quotes and backslashes
always. -/
theorem escapeLine_cases (c : Char) :
    (escapeLine c = [c] ∧ isTextChar c ∧ c ≠ '\\' ∧ c ≠ '"') ∨
      ∃ written, escapeLine c = '\\' :: written ∧ Escapes written c := by
  unfold escapeLine
  split_ifs with hlf hquote
  · subst hlf; exact .inr ⟨_, rfl, fun _ => ⟨rfl, rfl⟩⟩
  · subst hquote; exact .inr ⟨_, rfl, fun _ => ⟨rfl, rfl⟩⟩
  · exact (escapeChar_cases hlf).imp_left fun ⟨h, htext, hback⟩ => ⟨h, htext, hback, hquote⟩

/-- No character is written as nothing. -/
theorem escapeLine_ne_nil (c : Char) : escapeLine c ≠ [] := by
  rcases escapeLine_cases c with ⟨h, -⟩ | ⟨written, h, -⟩ <;> simp [h]

/-- No character is written with a quote in front. -/
theorem head?_escapeLine_ne (c : Char) : (escapeLine c).head? ≠ some '"' := by
  rcases escapeLine_cases c with ⟨h, -, -, hquote⟩ | ⟨written, h, -⟩
  · simpa [h] using hquote
  · simp [h]

/-- The reader of a string takes one written character at a time. -/
theorem readBasic_escapeLine (before : List Char) (fuel : Nat) (c : Char) (rest : List Char) :
    readBasic before (fuel + 1) (escapeLine c ++ rest) = readBasic (c :: before) fuel rest := by
  rcases escapeLine_cases c with ⟨h, htext, hback, hquote⟩ | ⟨written, h, hescapes⟩
  · rw [h, List.singleton_append, readBasic]
    · rw [if_pos htext]
    · rintro rfl
      exact hquote rfl
    · rintro rfl
      exact hback rfl
  · rw [h, List.cons_append, readBasic, (hescapes rest).1]

/-- Written characters are read up to the quote that closes the string. -/
theorem readBasic_flatMap_escapeLine (text before rest : List Char) {fuel : Nat}
    (hfuel : text.length < fuel) :
    readBasic before fuel (text.flatMap escapeLine ++ '"' :: rest) =
      some (before.reverse ++ text, rest) := by
  induction text generalizing before fuel with
  | nil =>
    obtain ⟨fuel, rfl⟩ := Nat.exists_eq_succ_of_ne_zero (Nat.ne_zero_of_lt hfuel)
    simp [readBasic]
  | cons c text ih =>
    obtain ⟨fuel, rfl⟩ := Nat.exists_eq_succ_of_ne_zero (Nat.ne_zero_of_lt hfuel)
    rw [List.flatMap_cons, List.append_assoc, readBasic_escapeLine,
      ih (c :: before) (by simpa using hfuel)]
    simp

/-- Characters that stand for themselves are read up to the apostrophe that closes the string. -/
theorem readLiteral_append {text : List Char} (before rest : List Char)
    (h : ∀ c ∈ text, isTextChar c ∧ c ≠ '\'') :
    readLiteral before (text ++ '\'' :: rest) = some (before.reverse ++ text, rest) := by
  induction text generalizing before with
  | nil => simp [readLiteral]
  | cons c text ih =>
    obtain ⟨htext, hquote⟩ := h c List.mem_cons_self
    rw [List.cons_append, readLiteral]
    · rw [if_pos htext, ih (c :: before) fun c hc => h c (List.mem_cons_of_mem _ hc)]
      simp
    · rintro rfl
      exact hquote rfl

/-! ### Strings over several lines -/

/-- The closing delimiters of a string are found at the last delimiters of its text, if the text is
nothing but delimiters; otherwise the reader goes on. -/
theorem closeTriple?_cases {delimiter : Char} {written rest : List Char} (before : List Char)
    (hwritten : written.take 3 ≠ List.replicate 3 delimiter)
    (hrest : rest.head? ≠ some delimiter) :
    (written ≠ [] ∧
        closeTriple? delimiter before (written ++ (List.replicate 3 delimiter ++ rest)) = none) ∨
      (∃ n, written = List.replicate n delimiter) ∧
        closeTriple? delimiter before (written ++ (List.replicate 3 delimiter ++ rest)) =
          some (before.reverse ++ written, rest) := by
  by_cases hends : (written ++ (List.replicate 3 delimiter ++ rest)).take 3 =
      List.replicate 3 delimiter
  · have hshort : written.length ≤ 2 := by
      by_contra hlong
      rw [List.take_append_of_le_length (by omega)] at hends
      exact hwritten hends
    have hreplicate : written = List.replicate written.length delimiter := by
      have htake := congrArg (List.take written.length) hends
      rwa [List.take_take, Nat.min_eq_left (by omega), List.take_left, List.take_replicate,
        Nat.min_eq_left (by omega)] at htake
    have hdrop : (written ++ (List.replicate 3 delimiter ++ rest)).drop 3 = written ++ rest := by
      rw [hreplicate, ← List.append_assoc, List.replicate_append_replicate, Nat.add_comm,
        ← List.replicate_append_replicate, List.append_assoc]
      exact List.drop_left' List.length_replicate
    have hrun : (written ++ rest).takeWhile (· == delimiter) = written := by
      have hstop : rest.takeWhile (· == delimiter) = [] := by
        cases rest with
        | nil => rfl
        | cons c rest =>
          have hc : c ≠ delimiter := by simpa using hrest
          simp [hc]
      rw [List.takeWhile_append_of_pos, hstop, List.append_nil]
      intro c hc
      rw [hreplicate] at hc
      simpa using List.eq_of_mem_replicate hc
    refine .inr ⟨⟨_, hreplicate⟩, ?_⟩
    rw [closeTriple?, if_pos hends]
    dsimp only
    rw [hdrop, hrun, Nat.min_eq_right hshort, List.drop_left, ← hreplicate]
  · refine .inl ⟨?_, if_neg hends⟩
    rintro rfl
    exact hends (List.take_left' List.length_replicate)

/-- A text without three delimiters in a row does not begin with three. -/
theorem take_three_ne_of_hasTriple {c : Char} {cs : List Char} (h : hasTriple c cs = false) :
    cs.take 3 ≠ List.replicate 3 c := by
  cases cs with
  | nil => simp
  | cons d rest =>
    rw [hasTriple, Bool.or_eq_false_iff] at h
    simpa using h.1

/-- The string ends where its closing delimiters are found. -/
theorem readTripleLiteral_of_close {before cs : List Char} {result : List Char × List Char}
    (h : closeTriple? '\'' before cs = some result) (fuel : Nat) :
    readTripleLiteral before (fuel + 1) cs = some result := by
  unfold readTripleLiteral
  rw [h]

/-- A character that stands for itself is read before the closing delimiters. -/
theorem readTripleLiteral_cons {before rest : List Char} {c : Char}
    (h : closeTriple? '\'' before (c :: rest) = none) (hc : isTextChar c ∨ c = '\n')
    (fuel : Nat) :
    readTripleLiteral before (fuel + 1) (c :: rest) =
      readTripleLiteral (c :: before) fuel rest := by
  conv_lhs => unfold readTripleLiteral
  rw [h]
  dsimp only
  split
  next heq => exact absurd heq (List.cons_ne_nil _ _)
  next heq =>
    obtain ⟨rfl, rfl⟩ := List.cons.inj heq
    rfl
  next heq =>
    obtain ⟨rfl, -⟩ := List.cons.inj heq
    exact absurd hc (by decide)
  next hlf _ heq =>
    obtain ⟨rfl, rfl⟩ := List.cons.inj heq
    rw [if_pos (hc.resolve_right hlf)]

/-- Characters that stand for themselves, line breaks among them, are read up to the apostrophes
that close the string. -/
theorem readTripleLiteral_append {text : List Char} (before : List Char) {rest : List Char}
    (h : ∀ c ∈ text, isTextChar c ∨ c = '\n') (htriple : hasTriple '\'' text = false)
    (hrest : rest.head? ≠ some '\'') {fuel : Nat} (hfuel : text.length < fuel) :
    readTripleLiteral before fuel (text ++ (List.replicate 3 '\'' ++ rest)) =
      some (before.reverse ++ text, rest) := by
  obtain ⟨fuel, rfl⟩ := Nat.exists_eq_succ_of_ne_zero (Nat.ne_zero_of_lt hfuel)
  induction text generalizing before fuel with
  | nil =>
    rcases closeTriple?_cases before (take_three_ne_of_hasTriple htriple) hrest with
      ⟨hne, -⟩ | ⟨-, hclose⟩
    · exact absurd rfl hne
    · exact readTripleLiteral_of_close hclose fuel
  | cons c text ih =>
    rcases closeTriple?_cases before (take_three_ne_of_hasTriple htriple) hrest with
      ⟨-, hclose⟩ | ⟨-, hclose⟩
    · obtain ⟨fuel, rfl⟩ : ∃ f, fuel = f + 1 := ⟨fuel - 1, by simp at hfuel; omega⟩
      rw [List.cons_append] at hclose ⊢
      rw [readTripleLiteral_cons hclose (h c List.mem_cons_self),
        ih (c :: before) (fun c hc => h c (List.mem_cons_of_mem _ hc))
          (Bool.or_eq_false_iff.mp htriple).2 fuel (by simpa using hfuel)]
      simp
    · exact readTripleLiteral_of_close hclose fuel

/-- The string ends where its closing delimiters are found. -/
theorem readTripleBasic_of_close {before cs : List Char} {result : List Char × List Char}
    (h : closeTriple? '"' before cs = some result) (fuel : Nat) :
    readTripleBasic before (fuel + 1) cs = some result := by
  unfold readTripleBasic
  rw [h]

/-- A character that stands for itself is read before the closing delimiters. -/
theorem readTripleBasic_cons {before rest : List Char} {c : Char}
    (h : closeTriple? '"' before (c :: rest) = none) (hc : isTextChar c ∨ c = '\n')
    (hback : c ≠ '\\') (fuel : Nat) :
    readTripleBasic before (fuel + 1) (c :: rest) = readTripleBasic (c :: before) fuel rest := by
  conv_lhs => unfold readTripleBasic
  rw [h]
  dsimp only
  split
  next heq => exact absurd heq (List.cons_ne_nil _ _)
  next heq => exact absurd (List.cons.inj heq).1 hback
  next heq =>
    obtain ⟨rfl, rfl⟩ := List.cons.inj heq
    rfl
  next heq =>
    obtain ⟨rfl, -⟩ := List.cons.inj heq
    exact absurd hc (by decide)
  next hlf _ heq =>
    obtain ⟨rfl, rfl⟩ := List.cons.inj heq
    rw [if_pos (hc.resolve_right hlf)]

/-- An escaped character is read as that character. -/
theorem readTripleBasic_escape {before written : List Char} {c : Char} (h : Escapes written c)
    (rest : List Char) (fuel : Nat) :
    readTripleBasic before (fuel + 1) ('\\' :: (written ++ rest)) =
      readTripleBasic (c :: before) fuel rest := by
  have hclose : closeTriple? '"' before ('\\' :: (written ++ rest)) = none :=
    if_neg fun heq => absurd (List.cons.inj heq).1 (by decide)
  obtain ⟨hread, hblank⟩ := h rest
  conv_lhs => unfold readTripleBasic
  simp only [hclose, hblank, hread]

/-- A character that is no quote ends a run of quotes. -/
theorem escapeLines_of_ne {quotes : Nat} {c : Char} {text : List Char} (h : c ≠ '"') :
    escapeLines quotes (c :: text) =
      (if c = '\n' then ['\n'] else escapeChar c) ++ escapeLines 0 text := by
  rw [escapeLines, if_neg h]

/-- A quote that does not complete three stands for itself. -/
theorem escapeLines_quote {quotes : Nat} {text : List Char} (h : quotes ≠ 2) :
    escapeLines quotes ('"' :: text) = '"' :: escapeLines (quotes + 1) text := by
  rw [escapeLines, if_pos rfl, if_neg h]

/-- What a written text begins with: a quote only for a quote, and a line break only for a line
break. -/
theorem exists_escapeLines_eq_cons (quotes : Nat) (c : Char) (text : List Char) :
    ∃ d more, escapeLines quotes (c :: text) = d :: more ∧
      (d = '"' → c = '"' ∧ quotes ≠ 2) ∧ (c ≠ '\n' → isTextChar d) := by
  by_cases hquote : c = '"'
  · subst hquote
    by_cases htwo : quotes = 2
    · subst htwo
      exact ⟨'\\', _, rfl, fun h => absurd h (by decide), fun _ => rfl⟩
    · exact ⟨'"', _, escapeLines_quote htwo, fun _ => ⟨rfl, htwo⟩, fun _ => rfl⟩
  · rw [escapeLines_of_ne hquote]
    split_ifs with hlf
    · exact ⟨'\n', _, rfl, fun h => absurd h (by decide), fun h => absurd hlf h⟩
    · rcases escapeChar_cases hlf with ⟨hself, htext, -⟩ | ⟨written, hescaped, -⟩
      · rw [hself]
        exact ⟨c, _, rfl, fun h => absurd h hquote, fun _ => htext⟩
      · rw [hescaped]
        exact ⟨'\\', _, rfl, fun h => absurd h (by decide), fun _ => rfl⟩

/-- After some quotes of a run no more are written than complete two. -/
theorem take_escapeLines_ne {quotes : Nat} (hquotes : quotes ≤ 2) (text : List Char) :
    (escapeLines quotes text).take (3 - quotes) ≠ List.replicate (3 - quotes) '"' := by
  induction text generalizing quotes with
  | nil =>
    obtain ⟨n, hn⟩ : ∃ n, 3 - quotes = n + 1 := ⟨2 - quotes, by omega⟩
    simp [escapeLines, hn, List.replicate_succ]
  | cons c text ih =>
    obtain ⟨n, hn⟩ : ∃ n, 3 - quotes = n + 1 := ⟨2 - quotes, by omega⟩
    rw [hn, List.replicate_succ]
    by_cases hfirst : c = '"' ∧ quotes ≠ 2
    · obtain ⟨rfl, htwo⟩ := hfirst
      have hrest := ih (show quotes + 1 ≤ 2 by omega)
      rw [show 3 - (quotes + 1) = n by omega] at hrest
      rw [escapeLines_quote htwo, List.take_succ_cons]
      exact fun heq => hrest (List.cons.inj heq).2
    · obtain ⟨d, more, hcons, hd, -⟩ := exists_escapeLines_eq_cons quotes c text
      rw [hcons, List.take_succ_cons]
      exact fun heq => hfirst (hd (List.cons.inj heq).1)

/-- The third quote of a run is escaped. -/
theorem take_three_escapeLines_ne {quotes : Nat} (hquotes : quotes ≤ 2) (text : List Char) :
    (escapeLines quotes text).take 3 ≠ List.replicate 3 '"' := by
  intro heq
  refine take_escapeLines_ne hquotes text ?_
  have htake := congrArg (List.take (3 - quotes)) heq
  rwa [List.take_take, List.take_replicate, Nat.min_eq_left (by omega)] at htake

/-- What is written as quotes alone is quotes. -/
theorem eq_of_escapeLines_eq_replicate {quotes n : Nat} {text : List Char}
    (h : escapeLines quotes text = List.replicate n '"') : escapeLines quotes text = text := by
  induction text generalizing quotes n with
  | nil => rfl
  | cons c text ih =>
    have hall : ∀ d ∈ escapeLines quotes (c :: text), d = '"' := fun d hd =>
      List.eq_of_mem_replicate (h ▸ hd)
    obtain ⟨d, more, hcons, hd, -⟩ := exists_escapeLines_eq_cons quotes c text
    obtain ⟨rfl, htwo⟩ := hd (hall d (hcons ▸ List.mem_cons_self))
    rw [escapeLines_quote htwo] at h ⊢
    cases n with
    | zero => exact absurd h (List.cons_ne_nil _ _)
    | succ n => rw [ih (List.cons.inj h).2]

/-- Written characters are read up to the quotes that close the string. -/
theorem readTripleBasic_escapeLines (text before : List Char) {rest : List Char}
    (hrest : rest.head? ≠ some '"') {quotes : Nat} (hquotes : quotes ≤ 2) {fuel : Nat}
    (hfuel : text.length < fuel) :
    readTripleBasic before fuel (escapeLines quotes text ++ (List.replicate 3 '"' ++ rest)) =
      some (before.reverse ++ text, rest) := by
  obtain ⟨fuel, rfl⟩ := Nat.exists_eq_succ_of_ne_zero (Nat.ne_zero_of_lt hfuel)
  induction text generalizing before quotes fuel with
  | nil =>
    rcases closeTriple?_cases before (take_three_escapeLines_ne hquotes []) hrest with
      ⟨hne, -⟩ | ⟨-, hclose⟩
    · exact absurd rfl hne
    · exact readTripleBasic_of_close hclose fuel
  | cons c text ih =>
    rcases closeTriple?_cases before (take_three_escapeLines_ne hquotes (c :: text)) hrest with
      ⟨-, hopen⟩ | ⟨⟨n, hn⟩, hclose⟩
    · obtain ⟨fuel, rfl⟩ : ∃ f, fuel = f + 1 := ⟨fuel - 1, by simp at hfuel; omega⟩
      have hrecurse {quotes : Nat} (hquotes : quotes ≤ 2) := ih (c :: before) hquotes fuel
        (by simpa using hfuel)
      rw [List.reverse_cons, List.append_assoc, List.singleton_append] at hrecurse
      by_cases hquote : c = '"'
      · subst hquote
        by_cases htwo : quotes = 2
        · subst htwo
          have hescapes : Escapes ['"'] '"' := fun _ => ⟨rfl, rfl⟩
          have hwritten : escapeLines 2 ('"' :: text) = '\\' :: (['"'] ++ escapeLines 0 text) := rfl
          rw [hwritten, List.cons_append, List.append_assoc, readTripleBasic_escape hescapes,
            hrecurse (by omega)]
        · rw [escapeLines_quote htwo, List.cons_append] at hopen ⊢
          rw [readTripleBasic_cons hopen (.inl rfl) (by decide), hrecurse (by omega)]
      · rw [escapeLines_of_ne hquote] at hopen ⊢
        by_cases hlf : c = '\n'
        · rw [if_pos hlf, ← hlf, List.append_assoc, List.singleton_append] at hopen ⊢
          rw [readTripleBasic_cons hopen (.inr hlf) (by rw [hlf]; decide), hrecurse (by omega)]
        · rw [if_neg hlf, List.append_assoc] at hopen ⊢
          rcases escapeChar_cases hlf with ⟨hself, htext, hback⟩ | ⟨written, hescaped, hescapes⟩
          · rw [hself, List.singleton_append] at hopen ⊢
            rw [readTripleBasic_cons hopen (.inl htext) hback, hrecurse (by omega)]
          · rw [hescaped, List.cons_append, readTripleBasic_escape hescapes,
              hrecurse (by omega)]
    · rw [eq_of_escapeLines_eq_replicate hn] at hclose ⊢
      exact readTripleBasic_of_close hclose fuel

/-! ### Forms -/

/-- Whether a text can be written in a form. Only forms without escapes do not hold every text. -/
def StringForm.Fits (text : List Char) : StringForm → Prop
  | .literal => ∀ c ∈ text, isTextChar c ∧ c ≠ '\''
  | .tripleLiteral => (∀ c ∈ text, isTextChar c ∨ c = '\n') ∧ hasTriple '\'' text = false
  | .basic | .tripleBasic => True

/-- The chosen form holds the text. -/
theorem StringForm.fits_choose (text : List Char) : (choose text).Fits text := by
  have hcommon (hcontrol : text.any isRareControl = false) (c : Char) (hc : c ∈ text)
      (hlf : c ≠ '\n') : isTextChar c :=
    isTextChar_of_not_rare (by simpa using List.any_eq_false.mp hcontrol c hc) hlf
  unfold choose
  dsimp only
  split_ifs with hbasic hliteral htriple hquotes hbreak
  · trivial
  · simp only [Bool.and_eq_true, Bool.not_eq_true', List.contains_eq_mem,
      decide_eq_false_iff_not] at hliteral
    obtain ⟨⟨hcontrol, hlf⟩, hquote⟩ := hliteral
    exact fun c hc => ⟨hcommon hcontrol c hc fun h => hlf (h ▸ hc), fun h => hquote (h ▸ hc)⟩
  · trivial
  · simp only [Bool.and_eq_true, Bool.not_eq_true'] at hquotes
    exact ⟨fun c hc => or_iff_not_imp_right.mpr (hcommon hquotes.1 c hc), hquotes.2⟩
  · trivial
  · trivial

/-- What may follow a string: no further delimiter. -/
def EndsString (rest : List Char) : Prop :=
  rest.head? ≠ some '"' ∧ rest.head? ≠ some '\''

theorem dropFirstNewline_cons {c : Char} (hc : isTextChar c) (rest : List Char) :
    dropFirstNewline (c :: rest) = c :: rest := by
  have hnone : dropNewline? (c :: rest) = none := by
    unfold dropNewline?
    split
    next heq =>
      obtain ⟨rfl, -⟩ := List.cons.inj heq
      exact absurd hc (by decide)
    next heq =>
      obtain ⟨rfl, -⟩ := List.cons.inj heq
      exact absurd hc (by decide)
    next => rfl
  rw [dropFirstNewline, hnone]
  rfl

/-- The line break after the opening delimiter is dropped, and no line break of the text is. -/
theorem dropFirstNewline_openingBreak {text written : List Char}
    (h : '\n' ∉ text → ∃ c more, written = c :: more ∧ isTextChar c) :
    dropFirstNewline (openingBreak text ++ written) = written := by
  unfold openingBreak
  split_ifs with hlf
  · rfl
  · obtain ⟨c, more, rfl, hc⟩ := h (by simpa using hlf)
    exact dropFirstNewline_cons hc more

/-! ### Strings in any form -/

/-- No character is written as nothing. -/
theorem escapeChar_ne_nil (c : Char) : escapeChar c ≠ [] := by
  unfold escapeChar
  split_ifs <;> simp

/-- A written text is no shorter than the text. -/
theorem length_le_length_escapeLines (quotes : Nat) (text : List Char) :
    text.length ≤ (escapeLines quotes text).length := by
  induction text generalizing quotes with
  | nil => simp
  | cons c text ih =>
    rw [escapeLines]
    split_ifs
    · have := ih 0
      simp only [List.length_cons]
      omega
    · simpa using ih (quotes + 1)
    · simpa using ih 0
    · have hlength := List.length_pos_iff.mpr (escapeChar_ne_nil c)
      have := ih 0
      simp only [List.length_append, List.length_cons]
      omega

/-- A text in quotes reads as itself. -/
theorem readString?_basic (text : List Char) {rest : List Char} (hrest : EndsString rest) :
    readString? (writeIn .basic text ++ rest) = some (text, rest) := by
  have hlength := length_le_length_flatMap escapeLine_ne_nil text
  have hread := readBasic_flatMap_escapeLine text [] rest
    (show text.length < (text.flatMap escapeLine ++ '"' :: rest).length by
      simp only [List.length_append, List.length_cons]
      omega)
  have hwritten : writeIn .basic text ++ rest =
      '"' :: (text.flatMap escapeLine ++ '"' :: rest) := by
    simp [writeIn]
  rw [hwritten]
  unfold readString?
  split
  next heq =>
    have htext := (List.cons.inj heq).2
    cases text with
    | nil =>
      rw [(List.cons.inj htext).2] at hrest
      exact absurd rfl hrest.1
    | cons c text =>
      have hhead := head?_escapeLine_ne c
      rw [List.flatMap_cons, List.append_assoc] at htext
      rw [← List.head?_append_of_ne_nil _ (escapeLine_ne_nil c), htext] at hhead
      exact absurd rfl hhead
  next heq => exact absurd (List.cons.inj heq).1 (by decide)
  next => exact hread

/-- A text in apostrophes reads as itself, if it can stand in them. -/
theorem readString?_literal {text rest : List Char} (h : StringForm.literal.Fits text)
    (hrest : EndsString rest) :
    readString? (writeIn .literal text ++ rest) = some (text, rest) := by
  have hread := readLiteral_append [] rest h
  have hwritten : writeIn .literal text ++ rest = '\'' :: (text ++ '\'' :: rest) := by
    simp [writeIn]
  rw [hwritten]
  unfold readString?
  split
  next heq => exact absurd (List.cons.inj heq).1 (by decide)
  next heq =>
    have htext := (List.cons.inj heq).2
    cases text with
    | nil =>
      rw [(List.cons.inj htext).2] at hrest
      exact absurd rfl hrest.2
    | cons c text => exact absurd (List.cons.inj htext).1 (h c List.mem_cons_self).2
  next => exact hread

/-- A text in triple quotes reads as itself. -/
theorem readString?_tripleBasic (text : List Char) {rest : List Char} (hrest : EndsString rest) :
    readString? (writeIn .tripleBasic text ++ rest) = some (text, rest) := by
  have hwritten : writeIn .tripleBasic text ++ rest = '"' :: '"' :: '"' ::
      (openingBreak text ++ (escapeLines 0 text ++ (List.replicate 3 '"' ++ rest))) := by
    simp [writeIn, List.replicate]
  have hdrop : dropFirstNewline (openingBreak text ++
      (escapeLines 0 text ++ (List.replicate 3 '"' ++ rest))) =
        escapeLines 0 text ++ (List.replicate 3 '"' ++ rest) := by
    refine dropFirstNewline_openingBreak fun hlf => ?_
    cases text with
    | nil => exact ⟨'"', _, rfl, rfl⟩
    | cons c text =>
      obtain ⟨d, more, hcons, -, hd⟩ := exists_escapeLines_eq_cons 0 c text
      rw [hcons]
      exact ⟨d, _, rfl, hd fun h => hlf (h ▸ List.mem_cons_self)⟩
  have hlength := length_le_length_escapeLines 0 text
  rw [hwritten, readString?, hdrop, readTripleBasic_escapeLines text [] hrest.1 (by omega)]
  · rfl
  · simp only [List.length_append]
    omega

/-- A text in triple apostrophes reads as itself, if it can stand in them. -/
theorem readString?_tripleLiteral {text rest : List Char}
    (h : StringForm.tripleLiteral.Fits text) (hrest : EndsString rest) :
    readString? (writeIn .tripleLiteral text ++ rest) = some (text, rest) := by
  have hwritten : writeIn .tripleLiteral text ++ rest = '\'' :: '\'' :: '\'' ::
      (openingBreak text ++ (text ++ (List.replicate 3 '\'' ++ rest))) := by
    simp [writeIn, List.replicate]
  have hdrop : dropFirstNewline (openingBreak text ++
      (text ++ (List.replicate 3 '\'' ++ rest))) = text ++ (List.replicate 3 '\'' ++ rest) := by
    refine dropFirstNewline_openingBreak fun hlf => ?_
    cases text with
    | nil => exact ⟨'\'', _, rfl, rfl⟩
    | cons c text =>
      exact ⟨c, _, rfl, (h.1 c List.mem_cons_self).resolve_right fun h =>
        hlf (h ▸ List.mem_cons_self)⟩
  rw [hwritten, readString?, hdrop, readTripleLiteral_append [] h.1 h.2 hrest.2]
  · rfl
  · simp only [List.length_append]
    omega

/-- A text that is written in a form that holds it reads as itself. -/
theorem readString?_writeIn {form : StringForm} {text rest : List Char} (h : form.Fits text)
    (hrest : EndsString rest) : readString? (writeIn form text ++ rest) = some (text, rest) := by
  cases form with
  | basic => exact readString?_basic text hrest
  | literal => exact readString?_literal h hrest
  | tripleBasic => exact readString?_tripleBasic text hrest
  | tripleLiteral => exact readString?_tripleLiteral h hrest

/-- A written string reads as its text. -/
theorem readString?_writeString (s : String) {rest : List Char} (hrest : EndsString rest) :
    readString? (writeString s ++ rest) = some (s.toList, rest) :=
  readString?_writeIn (StringForm.fits_choose s.toList) hrest

end TrackedComments.Toml

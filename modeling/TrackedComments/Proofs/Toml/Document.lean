import Mathlib.Data.List.TakeWhile
import TrackedComments.Proofs.Toml.Strings
import TrackedComments.Toml.Reader

/-!
# Written TOML documents read back

A document is written as lines that set keys and as headers that open tables, with bare keys and
with values of one line. Each line is read on its own, and what follows it is read in the document
that it leads to.

## Main results

* `Written.string`, `Written.integer`, `Written.true`, `Written.false`: values that are read back.
* `Document.readsAs_entries`: lines set the keys of the table of the last header.
* `read?_of_readsAs`: a document that is read line by line.
-/

namespace TrackedComments.Toml

/-! ### Values -/

/-- Whether a value is read from a text that a line break follows. -/
structure Written (text : List Char) (value : Value) : Prop where
  head : ∃ c more, text = c :: more ∧ isBlank c = false
  reads : ∀ rest, readValue? maxDepth (text ++ '\n' :: rest) = some (value, '\n' :: rest)

/-- A line break may follow a string. -/
theorem endsString_newline (rest : List Char) : EndsString ('\n' :: rest) := by
  simp [EndsString]

/-- A string is written with a delimiter in front. -/
theorem exists_writeString_eq_cons (s : String) :
    ∃ c more, writeString s = c :: more ∧ (c = '"' ∨ c = '\'') := by
  unfold writeString writeIn
  split
  · exact ⟨'"', _, rfl, .inl rfl⟩
  · exact ⟨'\'', _, rfl, .inr rfl⟩
  · exact ⟨'"', _, rfl, .inl rfl⟩
  · exact ⟨'\'', _, rfl, .inr rfl⟩

/-- A string is read from the text that is written for it. -/
theorem Written.string (s : String) : Written (writeString s) (.string s) := by
  obtain ⟨c, more, hcons, hc⟩ := exists_writeString_eq_cons s
  refine ⟨⟨c, more, hcons, by rcases hc with rfl | rfl <;> rfl⟩, fun rest => ?_⟩
  have hread := readString?_writeString s (endsString_newline rest)
  rw [hcons, List.cons_append] at hread ⊢
  rcases hc with rfl | rfl
  · rw [readValue?, hread, Option.map_some]
    dsimp only
    rw [String.ofList_toList]
  · rw [readValue?, hread, Option.map_some]
    dsimp only
    rw [String.ofList_toList]

/-- A scalar ends at a line break. -/
theorem readScalar?_append {run : List Char} (hrun : ∀ c ∈ run, isScalarChar c)
    (rest : List Char) :
    readScalar? (run ++ '\n' :: rest) =
      (scalarValue? run).map fun value => (value, '\n' :: rest) := by
  have htake : (run ++ '\n' :: rest).takeWhile isScalarChar = run := by
    rw [List.takeWhile_append_of_pos hrun]
    simp [isScalarChar]
  unfold readScalar?
  dsimp only
  rw [htake, List.drop_left]
  split
  next heq => exact absurd (List.cons.inj heq).1 (by decide)
  next => rfl

/-- What is neither quoted nor bracketed is read as a whole and then as a value. -/
theorem Written.scalar {run : List Char} {value : Value} (hne : run ≠ [])
    (hrun : run.all isScalarChar) (hvalue : scalarValue? run = some value) :
    Written run value := by
  obtain ⟨c, more, rfl⟩ := List.exists_cons_of_ne_nil hne
  rw [List.all_eq_true] at hrun
  have hc := hrun c List.mem_cons_self
  have hother : (['"', '\'', '[', '\x7b', ' ', '\t'].any isScalarChar) = false := by decide
  have hnot (d : Char) (hd : d ∈ ['"', '\'', '[', '\x7b', ' ', '\t']) : c ≠ d := by
    rintro rfl
    exact List.any_eq_false.mp hother c hd hc
  refine ⟨⟨c, more, rfl, ?_⟩, fun rest => ?_⟩
  · simp [isBlank, hnot]
  · have hread := readScalar?_append hrun rest
    rw [hvalue, Option.map_some, List.cons_append] at hread
    rw [List.cons_append, readValue?]
    · exact hread
    -- no other kind of value begins with such a character
    all_goals simp [hnot]

/-- The word for true is read as true. -/
theorem Written.true : Written ['t', 'r', 'u', 'e'] (.boolean .true) :=
  .scalar (by decide) rfl rfl

/-- The word for false is read as false. -/
theorem Written.false : Written ['f', 'a', 'l', 's', 'e'] (.boolean .false) :=
  .scalar (by decide) rfl rfl

/-! ### Numbers -/

/-- A decimal digit has the value that it is written for. -/
theorem hexValue?_digitChar : ∀ n < 10, hexValue? (Nat.digitChar n) = some n := by
  decide

/-- A further digit multiplies the value by the base and adds its own. -/
theorem digitsValue_concat (base : Nat) (digits : List Char) (c : Char) :
    digitsValue base (digits ++ [c]) = digitsValue base digits * base + (hexValue? c).getD 0 := by
  rw [digitsValue, List.foldl_append]
  rfl

/-- The digits of a number have it as their value. -/
theorem digitsValue_toDigits (n : Nat) : digitsValue 10 (Nat.toDigits 10 n) = n := by
  induction n using Nat.strongRecOn with
  | ind n ih =>
    rw [Nat.toDigits_eq_if (by decide)]
    split
    next hlt => simp [digitsValue, hexValue?_digitChar n hlt]
    next hge =>
      rw [digitsValue_concat, ih (n / 10) (by omega), hexValue?_digitChar _ (by omega),
        Option.getD_some]
      omega

/-- A run of digits is a number, unless it has a needless zero in front. -/
theorem readDecimal?_digits {digits : List Char} (hne : digits ≠ [])
    (hdigits : ∀ c ∈ digits, c.isDigit)
    (hlead : ¬ (digits.head? = some '0' ∧ digits.length ≠ 1)) :
    readDecimal? .false digits = some (.integer (digitsValue 10 digits)) := by
  have htake : digits.takeWhile (fun c => c.isDigit || c == '_') = digits :=
    List.takeWhile_eq_self_iff.mpr fun c hc => by simp [hdigits c hc]
  have hsplit : Chars.splitAtChar '_' digits = [digits] :=
    Chars.splitAtChar_of_not_mem fun hmem => absurd (hdigits '_' hmem) (by decide)
  have hread : readDigits Char.isDigit digits = some (digits, []) := by
    simp [readDigits, htake, hsplit, hne]
  simp [readDecimal?, hread, hlead]

/-- A reader of a fixed number of digits leaves an end of the text. -/
theorem suffix_of_readFixed {count n : Nat} {cs rest : List Char}
    (h : readFixed count cs = some (n, rest)) : rest <:+ cs := by
  unfold readFixed at h
  dsimp only at h
  split at h
  · obtain ⟨-, rfl⟩ := Prod.mk.inj (Option.some.inj h)
    exact List.drop_suffix _ _
  · simp at h

section Digits

variable {digits : List Char} (hdigits : ∀ c ∈ digits, c.isDigit)

include hdigits

/-- What is no digit does not stand among digits. -/
theorem not_mem_digits {c : Char} (hc : c.isDigit = .false) : c ∉ digits := fun hmem => by
  simp [hdigits c hmem] at hc

/-- Digits alone are neither a date nor a time. -/
theorem not_beginsWith_digits :
    beginsWithDate digits = .false ∧ beginsWithTime digits = .false := by
  unfold beginsWithDate beginsWithTime
  constructor
  · split
    next heq =>
      have hmem := (suffix_of_readFixed heq).subset List.mem_cons_self
      exact absurd hmem (not_mem_digits hdigits (by decide))
    next => rfl
  · split
    next heq =>
      have hmem := (suffix_of_readFixed heq).subset List.mem_cons_self
      exact absurd hmem (not_mem_digits hdigits (by decide))
    next => rfl

/-- Digits alone are a number in base ten without a sign. -/
theorem readNumber?_digits : readNumber? digits = readDecimal? .false digits := by
  have hnot (c : Char) (hc : c.isDigit = .false) := not_mem_digits hdigits hc
  unfold readNumber?
  split
  next signed negative unsigned hsign =>
    obtain ⟨rfl, rfl, rfl⟩ : signed = .false ∧ negative = .false ∧ unsigned = digits := by
      split at hsign
      next => exact absurd List.mem_cons_self (hnot '+' (by decide))
      next => exact absurd List.mem_cons_self (hnot '-' (by decide))
      next => simpa [eq_comm] using hsign
    rw [if_neg]
    · split
      next => exact absurd (List.mem_cons_of_mem _ List.mem_cons_self) (hnot 'x' (by decide))
      next => exact absurd (List.mem_cons_of_mem _ List.mem_cons_self) (hnot 'o' (by decide))
      next => exact absurd (List.mem_cons_of_mem _ List.mem_cons_self) (hnot 'b' (by decide))
      next => rfl
    · rintro (rfl | rfl)
      · exact absurd List.mem_cons_self (hnot 'i' (by decide))
      · exact absurd List.mem_cons_self (hnot 'n' (by decide))

/-- Digits without a needless zero in front are an integer. -/
theorem scalarValue?_digits (hne : digits ≠ [])
    (hlead : ¬ (digits.head? = some '0' ∧ digits.length ≠ 1)) :
    scalarValue? digits = some (.integer (digitsValue 10 digits)) := by
  have htrue : digits ≠ ['t', 'r', 'u', 'e'] := by
    rintro rfl
    exact absurd List.mem_cons_self (not_mem_digits hdigits (c := 't') (by decide))
  have hfalse : digits ≠ ['f', 'a', 'l', 's', 'e'] := by
    rintro rfl
    exact absurd List.mem_cons_self (not_mem_digits hdigits (c := 'f') (by decide))
  obtain ⟨hdate, htime⟩ := not_beginsWith_digits hdigits
  rw [scalarValue?, if_neg htrue, if_neg hfalse, if_neg (by simp [hdate, htime]),
    readNumber?_digits hdigits, readDecimal?_digits hne hdigits hlead]

end Digits

/-- A number is read from its decimal digits. -/
theorem Written.integer (n : Nat) : Written (Nat.toDigits 10 n) (.integer n) := by
  refine .scalar (toDigits_ne_nil n) (List.all_eq_true.mpr fun c hc => ?_) ?_
  · have hdigit := isDigit_of_mem_toDigits hc
    simp [isScalarChar, Char.isAlphanum, hdigit]
  · rw [scalarValue?_digits (fun _ => isDigit_of_mem_toDigits) (toDigits_ne_nil n)
      (not_leading_zero_toDigits n), digitsValue_toDigits]

/-! ### Keys -/

/-- Whether a key can be written without quotes. -/
def IsBareKey (key : String) : Prop :=
  key.toList ≠ [] ∧ ∀ c ∈ key.toList, isBareChar c

instance (key : String) : Decidable (IsBareKey key) :=
  decidable_of_iff (key.toList ≠ [] ∧ key.toList.all isBareChar)
    (and_congr_right' List.all_eq_true)

/-- The characters that tell a bare key from all else that may stand in a line. -/
def lineSigns : List Char :=
  [' ', '\t', '\n', '\r', '#', '[', ']', '.', '=', '\ufeff']

/-- No sign of a line may stand in a bare key. -/
theorem any_isBareChar_lineSigns : lineSigns.any isBareChar = false := by
  decide

/-- A bare key begins with none of the signs of a line. -/
theorem IsBareKey.exists_cons {key : String} (h : IsBareKey key) :
    ∃ c more, key.toList = c :: more ∧ c ∉ lineSigns := by
  obtain ⟨c, more, hcons⟩ := List.exists_cons_of_ne_nil h.1
  refine ⟨c, more, hcons, fun hmem => ?_⟩
  have hbare := h.2 c (hcons ▸ List.mem_cons_self)
  exact List.any_eq_false.mp any_isBareChar_lineSigns c hmem hbare

/-- Nothing is skipped before a character that is no blank. -/
theorem skipBlanks_of_not_blank {c : Char} (hc : isBlank c = false) (cs : List Char) :
    skipBlanks (c :: cs) = c :: cs := by
  simp [skipBlanks, hc]

/-- The blanks are among the signs of a line. -/
theorem not_isBlank_of_not_mem_lineSigns {c : Char} (hc : c ∉ lineSigns) : isBlank c = false := by
  simp only [lineSigns, List.mem_cons, not_or] at hc
  simp [isBlank, hc]

/-- A bare key is read up to a character that cannot stand in one. -/
theorem readKey?_bare {key : String} (h : IsBareKey key) {c : Char} {rest : List Char}
    (hc : isBareChar c = false) {d : Char} {more : List Char}
    (hskip : skipBlanks (c :: rest) = d :: more) (hd : d ≠ '.') (fuel : Nat) :
    readKey? (fuel + 1) (key.toList ++ c :: rest) = some ([key], d :: more) := by
  obtain ⟨first, others, hcons, hfirst⟩ := h.exists_cons
  have htake : (key.toList ++ c :: rest).takeWhile isBareChar = key.toList := by
    rw [List.takeWhile_append_of_pos h.2]
    simp [hc]
  have hblank : skipBlanks (key.toList ++ c :: rest) = key.toList ++ c :: rest := by
    rw [hcons, List.cons_append,
      skipBlanks_of_not_blank (not_isBlank_of_not_mem_lineSigns hfirst)]
  have hpart : readKeyPart? (key.toList ++ c :: rest) = some (key, c :: rest) := by
    simp only [readKeyPart?, htake, List.isEmpty_iff, h.1, if_false, List.drop_left,
      String.ofList_toList]
  rw [readKey?, hblank, hpart]
  dsimp only
  rw [hskip]
  split
  next heq => exact absurd (List.cons.inj heq).1 hd
  next => rfl

/-! ### Lines -/

/-- A key with its value, as it is meant and as it is written. -/
structure Entry where
  key : String
  value : Value
  written : List Char

/-- The line that sets the key. -/
def Entry.line (e : Entry) : List Char :=
  e.key.toList ++ [' ', '=', ' '] ++ e.written ++ ['\n']

/-- The key and the value, as a table holds them. -/
def Entry.pair (e : Entry) : String × Value :=
  (e.key, e.value)

/-- Whether an entry can be written so. -/
structure Entry.Valid (e : Entry) : Prop where
  key : IsBareKey e.key
  written : Written e.written e.value

/-- The line of an entry is read as a pair, up to its line break. -/
theorem Entry.Valid.readStatement? {e : Entry} (h : e.Valid) (rest : List Char) :
    readStatement? (e.line ++ rest) = some (.pair [e.key] e.value, '\n' :: rest) := by
  have hline : e.line ++ rest =
      e.key.toList ++ ' ' :: '=' :: ' ' :: (e.written ++ '\n' :: rest) := by
    simp [Entry.line]
  obtain ⟨first, others, hcons, hfirst⟩ := h.key.exists_cons
  obtain ⟨d, more, hwritten, hd⟩ := h.written.head
  have hskip : skipBlanks (' ' :: (e.written ++ '\n' :: rest)) = e.written ++ '\n' :: rest := by
    rw [hwritten, List.cons_append]
    exact skipBlanks_of_not_blank hd _
  have hpair : readPair? (readValue? maxDepth) (e.line ++ rest) =
      some ([e.key], e.value, '\n' :: rest) := by
    obtain ⟨fuel, hfuel⟩ : ∃ fuel, (e.line ++ rest).length = fuel + 1 :=
      ⟨(e.line ++ rest).length - 1, by rw [hline, hcons]; simp⟩
    rw [readPair?, hfuel, hline, readKey?_bare h.key (by decide) rfl (by decide)]
    change Option.map _ (readValue? maxDepth (skipBlanks (' ' :: _))) = _
    rw [hskip, h.written.reads, Option.map_some]
  have hbracket (more : List Char) : e.line ++ rest ≠ '[' :: more := by
    rw [hline, hcons]
    rintro heq
    exact hfirst ((List.cons.inj heq).1 ▸ by decide)
  unfold Toml.readStatement?
  split
  next heq => exact absurd heq (hbracket _)
  next heq => exact absurd heq (hbracket _)
  next => rw [hpair, Option.map_some]

/-- The line that opens a table. -/
def headerLine (name : String) : List Char :=
  '[' :: name.toList ++ [']', '\n']

/-- The line that opens a table is read as a header, up to its line break. -/
theorem readStatement?_headerLine {name : String} (h : IsBareKey name) (rest : List Char) :
    readStatement? (headerLine name ++ rest) = some (.table [name], '\n' :: rest) := by
  have hline : headerLine name ++ rest = '[' :: (name.toList ++ ']' :: '\n' :: rest) := by
    simp [headerLine]
  obtain ⟨first, others, hcons, hfirst⟩ := h.exists_cons
  rw [hline]
  unfold readStatement?
  split
  next heq =>
    have hname := (List.cons.inj heq).2
    rw [hcons] at hname
    exact absurd ((List.cons.inj hname).1 ▸ by decide) hfirst
  next heq =>
    obtain rfl := (List.cons.inj heq).2
    obtain ⟨fuel, hfuel⟩ : ∃ fuel, (name.toList ++ ']' :: '\n' :: rest).length = fuel + 1 :=
      ⟨(name.toList ++ ']' :: '\n' :: rest).length - 1, by rw [hcons]; simp⟩
    rw [hfuel, readKey?_bare h (by decide) rfl (by decide)]
    rfl
  next _ hnot => exact absurd rfl (hnot _)

/-! ### Documents -/

/-- A key is set behind the keys that it is none of. -/
theorem setEntry_append {entries : Entries} {key : String} (h : entries.lookup key = none)
    (value : Value) (more : Entries) :
    setEntry key value (entries ++ more) = entries ++ setEntry key value more := by
  induction entries with
  | nil => rfl
  | cons e entries ih =>
    obtain ⟨k, v⟩ := e
    by_cases hk : key = k
    · simp [hk] at h
    · rw [List.lookup_cons, beq_false_of_ne hk] at h
      rw [List.cons_append, setEntry, if_neg (Ne.symm hk), ih h, List.cons_append]

/-- A new key is set after all others. -/
theorem setEntry_of_lookup_eq_none {entries : Entries} {key : String}
    (h : entries.lookup key = none) (value : Value) :
    setEntry key value entries = entries ++ [(key, value)] := by
  simpa [setEntry] using setEntry_append h value []

namespace Document

/-- Whether lines lead from one document to another. -/
def ReadsAs (d : Document) (text : List Char) (d' : Document) : Prop :=
  ∃ n ≤ text.length, ∀ fuel rest,
    readLines? d (fuel + n) (text ++ rest) = readLines? d' fuel rest

variable {d d' d'' : Document} {text more : List Char}

/-- Without a line a document stays as it is. -/
theorem ReadsAs.nil (d : Document) : d.ReadsAs [] d :=
  ⟨0, Nat.le_refl 0, fun _ _ => rfl⟩

/-- Lines are read one after the other. -/
theorem ReadsAs.append (h : d.ReadsAs text d') (h' : d'.ReadsAs more d'') :
    d.ReadsAs (text ++ more) d'' := by
  obtain ⟨n, hn, hread⟩ := h
  obtain ⟨m, hm, hread'⟩ := h'
  refine ⟨m + n, by simp only [List.length_append]; omega, fun fuel rest => ?_⟩
  rw [List.append_assoc, ← Nat.add_assoc, hread, hread']

/-- A blank line says nothing. -/
theorem ReadsAs.blank (d : Document) : d.ReadsAs ['\n'] d :=
  ⟨1, Nat.le_refl 1, fun _ _ => rfl⟩

/-- A line that says something is read as what it says. -/
theorem ReadsAs.statement {c : Char} {statement : Statement}
    (hhead : text.head? = some c) (hc : c ∉ [' ', '\t', '\n', '\r', '#'])
    (hread : ∀ rest, readStatement? (text ++ rest) = some (statement, '\n' :: rest))
    (hadd : d.add? statement = some d') : d.ReadsAs text d' := by
  obtain ⟨others, rfl⟩ : ∃ others, text = c :: others := by
    cases text with
    | nil => simp at hhead
    | cons first others => exact ⟨others, by rw [Option.some.inj hhead]⟩
  simp only [List.mem_cons, List.not_mem_nil, or_false, not_or] at hc
  obtain ⟨hspace, htab, hlf, hcr, hhash⟩ := hc
  refine ⟨1, by simp, fun fuel rest => ?_⟩
  have hskip : skipBlanks (c :: (others ++ rest)) = c :: (others ++ rest) :=
    skipBlanks_of_not_blank (by simp [isBlank, hspace, htab]) _
  have hdrop : dropNewline? (c :: (others ++ rest)) = none := by
    unfold dropNewline?
    split
    next heq => exact absurd (List.cons.inj heq).1 hlf
    next heq => exact absurd (List.cons.inj heq).1 hcr
    next => rfl
  have hstatement := hread rest
  rw [List.cons_append] at hstatement ⊢
  rw [readLines?, hskip]
  split
  next heq => exact absurd heq (List.cons_ne_nil _ _)
  next heq => exact absurd (List.cons.inj heq).1 hhash
  next => 
    simp only [hdrop, hstatement, hadd]
    rfl

/-- The line of an entry adds its pair. -/
theorem ReadsAs.entry {e : Entry} (h : e.Valid) (hadd : d.add? (.pair [e.key] e.value) = some d') :
    d.ReadsAs e.line d' := by
  obtain ⟨c, more, hcons, hc⟩ := h.key.exists_cons
  have hsub : [' ', '\t', '\n', '\r', '#'] ⊆ lineSigns := by decide
  refine .statement (c := c) ?_ (fun hmem => hc (hsub hmem)) h.readStatement? hadd
  simp [Entry.line, hcons]

/-- The line that opens a table adds its header. -/
theorem ReadsAs.header {name : String} (h : IsBareKey name)
    (hadd : d.add? (.table [name]) = some d') : d.ReadsAs (headerLine name) d' :=
  .statement (c := '[') rfl (by decide) (readStatement?_headerLine h) hadd

/-! ### Tables -/

/-- Whether a document with a table in some place goes on with that table: a new key is set there,
after the others. -/
def Takes (place : Entries → Document) : Prop :=
  ∀ {entries : Entries} {key : String} (value : Value), entries.lookup key = none →
    (place entries).add? (.pair [key] value) = some (place (entries ++ [(key, value)]))

/-- Before the first header the keys are those of the whole document. -/
theorem takes_whole : Takes fun entries => ⟨entries, []⟩ := by
  intro entries key value hkey
  simp [add?, updateIn, definePath, define, hkey, setEntry_of_lookup_eq_none hkey]

/-- After a header the keys are those of its table. -/
theorem takes_table {others : Entries} {name : String} (hname : others.lookup name = none) :
    Takes fun entries => ⟨others ++ [(name, .table .explicit entries)], [name]⟩ := by
  intro entries key value hkey
  have hlookup : (others ++ [(name, Value.table .explicit entries)]).lookup name =
      some (.table .explicit entries) := by
    simp [List.lookup_append, hname]
  simp [add?, updateIn, definePath, define, hkey, hlookup, setEntry_of_lookup_eq_none hkey,
    setEntry_append hname, setEntry]

/-- A header opens a table that no other one has opened. -/
theorem add?_table {entries : Entries} {current : List String} {name : String}
    (hname : entries.lookup name = none) :
    (Document.mk entries current).add? (.table [name]) =
      some ⟨entries ++ [(name, .table .explicit [])], [name]⟩ := by
  simp [add?, updateIn, openTable, hname, setEntry_of_lookup_eq_none hname]

/-- Lines set the keys of a table, in order. -/
theorem readsAs_entries {place : Entries → Document} (hplace : Takes place) {new : List Entry}
    {entries : Entries} (hvalid : ∀ e ∈ new, e.Valid)
    (hfresh : ∀ e ∈ new, entries.lookup e.key = none) (hnodup : (new.map Entry.key).Nodup) :
    (place entries).ReadsAs (new.flatMap Entry.line) (place (entries ++ new.map Entry.pair)) := by
  induction new generalizing entries with
  | nil => simpa using ReadsAs.nil (place entries)
  | cons e new ih =>
    obtain ⟨hnot, hnodup⟩ := List.nodup_cons.mp hnodup
    have hadd := hplace e.value (hfresh e List.mem_cons_self)
    have hfresh' : ∀ f ∈ new, (entries ++ [e.pair]).lookup f.key = none := fun f hf => by
      have hne : f.key ≠ e.key := fun heq => hnot (heq ▸ List.mem_map_of_mem hf)
      simp [List.lookup_append, hfresh f (List.mem_cons_of_mem _ hf), Entry.pair, hne]
    have hrest := ih (fun f hf => hvalid f (List.mem_cons_of_mem _ hf)) hfresh' hnodup
    rw [List.append_assoc, List.singleton_append, ← List.map_cons] at hrest
    exact (ReadsAs.entry (hvalid e List.mem_cons_self) hadd).append hrest

/-- A header and the lines after it add a table. -/
theorem readsAs_table {name : String} {new : List Entry} {entries : Entries}
    {current : List String} (hname : IsBareKey name) (hfresh : entries.lookup name = none)
    (hvalid : ∀ e ∈ new, e.Valid) (hnodup : (new.map Entry.key).Nodup) :
    (Document.mk entries current).ReadsAs
      (['\n'] ++ headerLine name ++ new.flatMap Entry.line)
      ⟨entries ++ [(name, .table .explicit (new.map Entry.pair))], [name]⟩ :=
  ((ReadsAs.blank _).append (.header hname (add?_table hfresh))).append
    (readsAs_entries (takes_table hfresh) hvalid (fun _ _ => rfl) hnodup)

end Document

/-- A document that is read line by line. -/
theorem read?_of_readsAs {text : List Char} {d : Document}
    (h : Document.ReadsAs ⟨[], []⟩ text d) (hmark : text.head? ≠ some '\ufeff') :
    read? text = some d.entries := by
  obtain ⟨n, hn, hread⟩ := h
  have hlines := hread (text.length - n + 1) []
  rw [List.append_nil, show text.length - n + 1 + n = text.length + 1 by omega] at hlines
  unfold read?
  dsimp only
  split
  next => exact absurd rfl hmark
  next =>
    rw [hlines]
    rfl

end TrackedComments.Toml

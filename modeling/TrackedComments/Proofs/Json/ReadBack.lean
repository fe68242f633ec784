import Mathlib.Data.List.DropRight
import Mathlib.Tactic.Common
import TrackedComments.Json.Reader
import TrackedComments.Proofs.Text.Printed

/-!
# Printed JSON reads back

Whatever the layout, the reader finds in a printed value the value that has been printed. Values
whose strings all have texts and whose numbers all have values are the ones for which this holds;
they are built up here from strings and natural numbers by arrays and objects.

## Main results

* `Json.readsBack_string`, `Json.readsBack_number`, `Json.readsBack_array`,
  `Json.readsBack_object`: the four ways to build a value that reads back.
* `Json.ofChars?_print`: a document that holds nothing but such a value reads as that value.
-/

namespace TrackedComments.Json

/-! ### Strings -/

/-- A hexadecimal digit has the value that it is written for. -/
theorem hexValue?_digitChar : ∀ n < 16, hexValue? (Nat.digitChar n) = some n := by
  decide

/-- Two hexadecimal digits after two zeros are read as the number below 256 that they stand for. -/
theorem readUnit_digitChars {n : Nat} (h : n < 256) (rest : List Char) :
    readUnit ('0' :: '0' :: Nat.digitChar (n / 16) :: Nat.digitChar (n % 16) :: rest) =
      some (n, rest) := by
  have hzero : hexValue? '0' = some 0 := rfl
  have hunit : n / 16 * 16 + n % 16 = n := by omega
  simp [readUnit, hzero, hexValue?_digitChar (n / 16) (by omega),
    hexValue?_digitChar (n % 16) (by omega), hunit]

/-- A unit below the surrogates is a character of its own. -/
theorem joinUnits_toNat {c : Char} (h : c.toNat < 0xd800) (rest : List Char) :
    joinUnits c.toNat rest = (some c, rest) := by
  have hhigh : isHighSurrogate c.toNat = false := by simp [isHighSurrogate]; omega
  have hlow : isLowSurrogate c.toNat = false := by simp [isLowSurrogate]; omega
  simp [joinUnits, hhigh, hlow, Char.ofNat_toNat]

/-- A printed character reads as that character. -/
theorem readStringChar_escape (c : Char) (rest : List Char) :
    readStringChar (escape c ++ rest) = some (some c, rest) := by
  unfold escape
  split_ifs with hquote hback hb hf hn hr ht hlow
  · subst hquote; rfl
  · subst hback; rfl
  · subst hb; rfl
  · subst hf; rfl
  · subst hn; rfl
  · subst hr; rfl
  · subst ht; rfl
  · simp only [List.cons_append, List.nil_append, readStringChar]
    rw [readUnit_digitChars (by omega)]
    simp [joinUnits_toNat (show c.toNat < 0xd800 by omega)]
  · cases rest <;> simp [readStringChar, hback, hlow]

/-- No character is printed as nothing. -/
theorem escape_ne_nil (c : Char) : escape c ≠ [] := by
  unfold escape
  split_ifs <;> simp

/-- A printed character does not begin with a quote. -/
theorem head?_escape_ne (c : Char) : (escape c).head? ≠ some '"' := by
  unfold escape
  split_ifs with hquote <;> simp_all

/-- The reader of a string takes one printed character at a time. -/
theorem readStringRest_escape {before : List Char} {fuel : Nat} (c : Char) (rest : List Char) :
    readStringRest (some before) (fuel + 1) (escape c ++ rest) =
      readStringRest (some (c :: before)) fuel rest := by
  obtain ⟨d, more, hd⟩ := List.exists_cons_of_ne_nil (escape_ne_nil c)
  have hne : d ≠ '"' := by
    rintro rfl
    exact head?_escape_ne c (by rw [hd]; rfl)
  have hchar := readStringChar_escape c rest
  rw [hd, List.cons_append] at hchar ⊢
  rw [readStringRest]
  · rw [hchar]
  · intro r hr
    exact hne (List.cons.inj hr).1

/-- Printed characters are read up to the quote that closes the string. -/
theorem readStringRest_flatMap_escape (text before rest : List Char) {fuel : Nat}
    (hfuel : text.length < fuel) :
    readStringRest (some before) fuel (text.flatMap escape ++ '"' :: rest) =
      some (some (String.ofList (before.reverse ++ text)), rest) := by
  induction text generalizing before fuel with
  | nil =>
    obtain ⟨fuel, rfl⟩ := Nat.exists_eq_succ_of_ne_zero (Nat.ne_zero_of_lt hfuel)
    simp [readStringRest]
  | cons c text ih =>
    obtain ⟨fuel, rfl⟩ := Nat.exists_eq_succ_of_ne_zero (Nat.ne_zero_of_lt hfuel)
    rw [List.flatMap_cons, List.append_assoc, readStringRest_escape,
      ih (c :: before) (by simpa using hfuel)]
    simp

/-- A printed string reads as its text. -/
theorem readString_printString (s : String) (rest : List Char) :
    readString (printString (some s) ++ rest) = some (some s, rest) := by
  have hlen := length_le_length_flatMap escape_ne_nil s.toList
  simp only [printString, List.cons_append, List.append_assoc, List.nil_append, readString]
  rw [readStringRest_flatMap_escape s.toList [] rest
    (by simp only [List.length_append, List.length_cons]; omega)]
  simp

/-! ### Blanks and ends -/

/-- What may follow a value: nothing, or a character with which no number goes on. -/
def EndsValue (rest : List Char) : Prop :=
  ∀ c ∈ rest.head?, c.isDigit = false ∧ c ≠ '.' ∧ c ≠ 'e' ∧ c ≠ 'E'

theorem endsValue_nil : EndsValue [] := by
  simp [EndsValue]

/-- A value may end before the bracket that closes what it stands in. -/
theorem endsValue_lineBreak_append (layout : Layout) {c : Char} (rest : List Char)
    (hc : c = ']' ∨ c = '\x7d') : EndsValue (layout.lineBreak ++ c :: rest) := by
  rcases hc with rfl | rfl <;> cases layout <;> simp [EndsValue, Layout.lineBreak]

/-- The line break of a layout is made of blanks. -/
theorem skipBlanks_lineBreak_append (layout : Layout) (cs : List Char) :
    skipBlanks (layout.lineBreak ++ cs) = skipBlanks cs := by
  unfold skipBlanks
  refine List.dropWhile_append_of_pos fun c hc => ?_
  cases layout with
  | compact => simp [Layout.lineBreak] at hc
  | indented depth =>
    rcases List.mem_cons.mp hc with rfl | hc
    · rfl
    · rw [List.eq_of_mem_replicate hc]; rfl

/-- Nothing is skipped before a character that is no blank. -/
theorem skipBlanks_cons_of_not_blank {c : Char} (hc : isBlank c = false) (cs : List Char) :
    skipBlanks (c :: cs) = c :: cs := by
  simp [skipBlanks, hc]

/-- Blanks that have been skipped need not be skipped again. -/
theorem skipBlanks_skipBlanks (cs : List Char) : skipBlanks (skipBlanks cs) = skipBlanks cs := by
  exact List.dropWhile_idempotent isBlank cs

/-- The reader passes over blanks in front of a value. -/
theorem readValue_skipBlanks (fuel : Nat) (cs : List Char) :
    readValue fuel (skipBlanks cs) = readValue fuel cs := by
  cases fuel with
  | zero => rfl
  | succ fuel => rw [readValue, readValue, skipBlanks_skipBlanks]

/-- The reader passes over the line break before a value. -/
theorem readValue_lineBreak_append (fuel : Nat) (layout : Layout) (cs : List Char) :
    readValue fuel (layout.lineBreak ++ cs) = readValue fuel cs := by
  rw [← readValue_skipBlanks, skipBlanks_lineBreak_append, readValue_skipBlanks]

/-! ### Numbers -/

/-- Digits are read up to the first character that is none. -/
theorem readDigits_append {digits rest : List Char} (hne : digits ≠ [])
    (hdigits : ∀ c ∈ digits, c.isDigit) (hrest : ∀ c ∈ rest.head?, c.isDigit = false) :
    readDigits (digits ++ rest) = some (digits, rest) := by
  have hdrop : rest.dropWhile Char.isDigit = rest := by
    cases rest with
    | nil => rfl
    | cons c rest => simp [hrest c rfl]
  have htake : rest.takeWhile Char.isDigit = [] := by
    cases rest with
    | nil => rfl
    | cons c rest => simp [hrest c rfl]
  simp only [readDigits, List.takeWhile_append_of_pos hdigits, List.dropWhile_append_of_pos hdigits,
    htake, hdrop, List.append_nil]
  simp [hne]

/-- Without a point there is no fraction. -/
theorem readFraction_of_ne {rest : List Char} (h : ∀ c ∈ rest.head?, c ≠ '.') :
    readFraction rest = some (false, rest) := by
  unfold readFraction
  split
  · exact absurd rfl (h '.' rfl)
  · rfl

/-- Without the letter for it there is no exponent. -/
theorem readExponent_of_ne {rest : List Char} (h : ∀ c ∈ rest.head?, c ≠ 'e' ∧ c ≠ 'E') :
    readExponent rest = some (false, rest) := by
  cases rest with
  | nil => rfl
  | cons c rest => simp [readExponent, h c rfl]

/-- A printed natural number reads as that number. -/
theorem readUnsigned_toDigits (n : Nat) {rest : List Char} (h : EndsValue rest) :
    readUnsigned (Nat.toDigits 10 n ++ rest) = some (some n, rest) := by
  unfold readUnsigned
  rw [readDigits_append (toDigits_ne_nil n) (fun _ => isDigit_of_mem_toDigits)
    fun c hc => (h c hc).1]
  simp only [Option.bind_eq_bind, Option.bind_some, if_neg (not_leading_zero_toDigits n)]
  rw [readFraction_of_ne fun c hc => (h c hc).2.1]
  simp only [Option.bind_some]
  rw [readExponent_of_ne fun c hc => (h c hc).2.2]
  simp [Nat.ofDigitChars_ten_toDigits]

/-! ### Values -/

/-- A digit is no blank. -/
theorem not_isBlank_of_isDigit {c : Char} (h : c.isDigit) : isBlank c = false := by
  by_contra hblank
  simp only [isBlank, Bool.not_eq_false, Bool.or_eq_true, beq_iff_eq] at hblank
  rcases hblank with ((rfl | rfl) | rfl) | rfl <;> exact absurd h (by decide)

/-- Whether the reader finds a printed value again: in every layout, with fuel for every printed
character, and before whatever may follow a value. -/
def ReadsBack (value : Json) : Prop :=
  ∀ (layout : Layout) (fuel : Nat) (rest : List Char),
    (value.print layout).length ≤ fuel → EndsValue rest →
      readValue fuel (value.print layout ++ rest) = some (value, rest)

/-- Strings are found again. -/
theorem readsBack_string (s : String) : ReadsBack (.ofString s) := by
  intro layout fuel rest hfuel _
  have hread := readString_printString s rest
  obtain ⟨fuel, rfl⟩ : ∃ f, fuel = f + 1 := by
    refine ⟨fuel - 1, ?_⟩
    simp only [ofString, print, printString, List.cons_append, List.length_cons] at hfuel
    omega
  simp only [ofString, print, printString, List.cons_append, List.append_assoc, List.nil_append]
    at hread ⊢
  rw [readValue, skipBlanks_cons_of_not_blank (by rfl)]
  simp [hread]

/-- Natural numbers are found again. -/
theorem readsBack_number (n : Nat) : ReadsBack (.ofNat n) := by
  intro layout fuel rest hfuel hrest
  obtain ⟨c, digits, hc⟩ := List.exists_cons_of_ne_nil (toDigits_ne_nil n)
  have hdigit : c.isDigit := isDigit_of_mem_toDigits (n := n) (hc ▸ List.mem_cons_self)
  have hread := readUnsigned_toDigits n hrest
  have hblank := not_isBlank_of_isDigit hdigit
  simp only [ofNat, print, printNumber, hc, List.length_cons, List.cons_append] at hfuel hread ⊢
  obtain ⟨fuel, rfl⟩ : ∃ f, fuel = f + 1 := ⟨fuel - 1, by omega⟩
  rw [readValue, skipBlanks_cons_of_not_blank hblank]
  -- a digit is none of the characters by which the other kinds of values are told
  split
  case h_7 => 
    rw [readNumber]
    · simp [hread]
    · rintro r hr
      obtain rfl := (List.cons.inj hr).1
      exact absurd hdigit (by decide)
  all_goals
    rename_i heq
    obtain rfl := (List.cons.inj heq).1
    exact absurd hdigit (by decide)

/-- No value is printed with a blank or the closing bracket of an array in front. -/
theorem exists_print_eq_cons (value : Json) (layout : Layout) :
    ∃ c more, value.print layout = c :: more ∧ isBlank c = false ∧ c ≠ ']' := by
  have hcons (c : Char) (more : List Char) (hblank : isBlank c = false := by rfl)
      (hbracket : c ≠ ']' := by decide) :
      ∃ d rest, c :: more = d :: rest ∧ isBlank d = false ∧ d ≠ ']' :=
    ⟨c, more, rfl, hblank, hbracket⟩
  cases value with
  | null => exact hcons ..
  | bool b => cases b <;> exact hcons ..
  | number n =>
    cases n with
    | none => exact hcons ..
    | some n =>
      obtain ⟨c, digits, hc⟩ := List.exists_cons_of_ne_nil (toDigits_ne_nil n)
      have hdigit : c.isDigit := isDigit_of_mem_toDigits (n := n) (hc ▸ List.mem_cons_self)
      refine ⟨c, digits, by simpa [print, printNumber] using hc, not_isBlank_of_isDigit hdigit, ?_⟩
      rintro rfl
      exact absurd hdigit (by decide)
  | string text => cases text <;> exact hcons ..
  | array items => cases items <;> exact hcons ..
  | object members => cases members <;> exact hcons ..

/-! ### Arrays -/

/-- The reader passes over the line break before an item. -/
theorem readItems_lineBreak_append (before : List Json) (fuel : Nat) (layout : Layout)
    (cs : List Char) :
    readItems before fuel (layout.lineBreak ++ cs) = readItems before fuel cs := by
  cases fuel with
  | zero => rfl
  | succ fuel => rw [readItems, readItems, readValue_lineBreak_append]

/-- Printed items are read up to the bracket that closes the array. -/
theorem readItems_printItems (layout outer : Layout) (items : List Json) (item : Json)
    (before : List Json) (rest : List Char) (hitem : ReadsBack item)
    (hitems : ∀ i ∈ items, ReadsBack i) (fuel : Nat)
    (hfuel : (item.print layout).length + (printItems layout items).length < fuel) :
    readItems before fuel
        (item.print layout ++ (printItems layout items ++ (outer.lineBreak ++ ']' :: rest))) =
      some (.array (before.reverse ++ item :: items), rest) := by
  obtain ⟨fuel, rfl⟩ : ∃ f, fuel = f + 1 := ⟨fuel - 1, by omega⟩
  induction items generalizing item before fuel with
  | nil =>
    rw [readItems, printItems, List.nil_append, hitem layout fuel _ (by omega)
      (endsValue_lineBreak_append outer rest (.inl rfl))]
    simp only [skipBlanks_lineBreak_append, skipBlanks_cons_of_not_blank (c := ']') rfl]
    simp
  | cons next items ih =>
    simp only [printItems, List.length_append, List.length_cons] at hfuel
    obtain ⟨fuel, rfl⟩ : ∃ f, fuel = f + 1 := ⟨fuel - 1, by omega⟩
    have hnext := ih next (item :: before) (hitems next List.mem_cons_self)
      (fun i hi => hitems i (List.mem_cons_of_mem _ hi)) fuel (by omega)
    rw [readItems, printItems]
    simp only [List.cons_append, List.append_assoc]
    rw [hitem layout _ _ (by omega) (by simp [EndsValue])]
    simp only [skipBlanks_cons_of_not_blank (c := ',') rfl]
    rw [readItems_lineBreak_append, hnext]
    simp

/-- An array is found again if its items are. -/
theorem readsBack_array {items : List Json} (h : ∀ i ∈ items, ReadsBack i) :
    ReadsBack (.array items) := by
  intro layout fuel rest hfuel hrest
  cases items with
  | nil =>
    obtain ⟨fuel, rfl⟩ : ∃ f, fuel = f + 1 := ⟨fuel - 1, by simp [print] at hfuel; omega⟩
    rfl
  | cons item items =>
    simp only [print, List.length_append, List.length_cons] at hfuel
    obtain ⟨fuel, rfl⟩ : ∃ f, fuel = f + 1 := ⟨fuel - 1, by omega⟩
    obtain ⟨c, more, hc, hblank, hbracket⟩ := exists_print_eq_cons item layout.inner
    have hitems := readItems_printItems layout.inner layout items item [] rest
      (h item List.mem_cons_self) (fun i hi => h i (List.mem_cons_of_mem _ hi))
      fuel (by simp at hfuel ⊢; omega)
    simp only [print, List.cons_append, List.append_assoc, List.nil_append]
    rw [readValue, skipBlanks_cons_of_not_blank (c := '[') rfl]
    simp only [skipBlanks_lineBreak_append]
    rw [hc, List.cons_append, skipBlanks_cons_of_not_blank hblank]
    split
    next heq => exact absurd (List.cons.inj heq).1 hbracket
    next => rw [← List.cons_append, ← hc, hitems]; rfl

/-! ### Objects -/

theorem colon_inner (layout : Layout) : layout.inner.colon = layout.colon := by
  cases layout <;> rfl

/-- The reader passes over the line break before a member. -/
theorem readMembers_lineBreak_append (before : List (Option String × Json)) (fuel : Nat)
    (layout : Layout) (cs : List Char) :
    readMembers before fuel (layout.lineBreak ++ cs) = readMembers before fuel cs := by
  cases fuel with
  | zero => rfl
  | succ fuel => rw [readMembers, readMembers, skipBlanks_lineBreak_append]

/-- The colon after a name is passed over, with the blank that may follow it. -/
theorem readValue_of_skipBlanks_colon (layout : Layout) (fuel : Nat) (cs : List Char) :
    ∃ more, skipBlanks (layout.colon ++ cs) = ':' :: more ∧
      readValue fuel more = readValue fuel cs := by
  cases layout with
  | compact => exact ⟨cs, rfl, rfl⟩
  | indented depth =>
    refine ⟨' ' :: cs, rfl, ?_⟩
    rw [← readValue_skipBlanks, ← readValue_skipBlanks fuel cs]
    rfl

/-- One printed member is read, and then what follows it. -/
theorem readMembers_member {layout : Layout} {fuel : Nat} {name : String} {value : Json}
    (before : List (Option String × Json)) {rest : List Char} (hvalue : ReadsBack value)
    (hfuel : (value.print layout).length ≤ fuel) (hrest : EndsValue rest) :
    let text := printString (some name) ++ (layout.colon ++ (value.print layout ++ rest))
    (∀ more, skipBlanks rest = ',' :: more →
      readMembers before (fuel + 1) text = readMembers ((some name, value) :: before) fuel more) ∧
    (∀ more, skipBlanks rest = '\x7d' :: more →
      readMembers before (fuel + 1) text =
        some (.object ((some name, value) :: before).reverse, more)) := by
  intro text
  obtain ⟨more, hcolon, hmore⟩ :=
    readValue_of_skipBlanks_colon layout fuel (value.print layout ++ rest)
  have hname (cs : List Char) :
      skipBlanks (printString (some name) ++ cs) = printString (some name) ++ cs := by
    simp only [printString, List.cons_append]
    exact skipBlanks_cons_of_not_blank rfl _
  constructor <;>
  · intro more hnext
    rw [readMembers, hname, readString_printString]
    simp only [hcolon, hmore, hvalue layout fuel rest hfuel hrest, hnext]

/-- Printed members are read up to the brace that closes the object. -/
theorem readMembers_printMembers (layout outer : Layout) (members : List (String × Json))
    (name : String) (value : Json) (before : List (Option String × Json)) (rest : List Char)
    (hvalue : ReadsBack value) (hmembers : ∀ m ∈ members, ReadsBack m.2) (fuel : Nat)
    (hfuel : (value.print layout).length +
      (printMembers layout (members.map fun m => (some m.1, m.2))).length < fuel) :
    readMembers before fuel
        (printString (some name) ++ (layout.colon ++ (value.print layout ++
          (printMembers layout (members.map fun m => (some m.1, m.2)) ++
            (outer.lineBreak ++ '\x7d' :: rest))))) =
      some (.object (before.reverse ++ (some name, value) ::
        members.map fun m => (some m.1, m.2)), rest) := by
  obtain ⟨fuel, rfl⟩ : ∃ f, fuel = f + 1 := ⟨fuel - 1, by omega⟩
  induction members generalizing name value before fuel with
  | nil =>
    rw [List.map_nil, printMembers, List.nil_append,
      (readMembers_member before hvalue (by omega)
        (endsValue_lineBreak_append outer rest (.inr rfl))).2 rest
        (by rw [skipBlanks_lineBreak_append, skipBlanks_cons_of_not_blank (c := '\x7d') rfl])]
    simp
  | cons next members ih =>
    simp only [List.map_cons, printMembers, List.length_append, List.length_cons] at hfuel
    obtain ⟨fuel, rfl⟩ : ∃ f, fuel = f + 1 := ⟨fuel - 1, by omega⟩
    have hnext := ih next.1 next.2 ((some name, value) :: before)
      (hmembers next List.mem_cons_self)
      (fun m hm => hmembers m (List.mem_cons_of_mem _ hm)) fuel (by omega)
    simp only [List.map_cons, printMembers, List.cons_append, List.append_assoc]
    rw [(readMembers_member before hvalue (by omega) (by simp [EndsValue])).1 _
      (skipBlanks_cons_of_not_blank (c := ',') rfl _), readMembers_lineBreak_append, hnext]
    simp

/-- An object is found again if the values of its fields are. -/
theorem readsBack_object {fields : List (String × Json)} (h : ∀ f ∈ fields, ReadsBack f.2) :
    ReadsBack (.ofFields fields) := by
  intro layout fuel rest hfuel hrest
  cases fields with
  | nil =>
    obtain ⟨fuel, rfl⟩ : ∃ f, fuel = f + 1 := ⟨fuel - 1, by simp [ofFields, print] at hfuel; omega⟩
    rfl
  | cons field fields =>
    obtain ⟨name, value⟩ := field
    simp only [ofFields, List.map_cons, print, List.length_append, List.length_cons] at hfuel
    obtain ⟨fuel, rfl⟩ : ∃ f, fuel = f + 1 := ⟨fuel - 1, by omega⟩
    have hmembers := readMembers_printMembers layout.inner layout fields name value [] rest
      (h _ List.mem_cons_self) (fun f hf => h f (List.mem_cons_of_mem _ hf)) fuel
      (by simp at hfuel ⊢; omega)
    simp only [ofFields, List.map_cons, print, List.cons_append, List.append_assoc, List.nil_append]
    rw [readValue, skipBlanks_cons_of_not_blank (c := '\x7b') rfl]
    simp only [skipBlanks_lineBreak_append]
    simp only [colon_inner, printString, List.cons_append] at hmembers ⊢
    rw [skipBlanks_cons_of_not_blank (c := '"') rfl]
    split
    next heq => exact absurd (List.cons.inj heq).1 (by decide)
    next => rw [hmembers]; rfl

/-! ### Documents -/

/-- A document that holds nothing but a printed value reads as that value. -/
theorem ofChars?_print {value : Json} (h : ReadsBack value) (layout : Layout) :
    ofChars? (value.print layout) = some value := by
  have hread := h layout (2 * (value.print layout).length + 2) [] (by omega) endsValue_nil
  rw [List.append_nil] at hread
  simp [ofChars?, hread, skipBlanks]

end TrackedComments.Json

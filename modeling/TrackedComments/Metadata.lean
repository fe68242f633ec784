import TrackedComments.Text.Space
import TrackedComments.Text.Split

/-!
# Metadata

An annotated comment may end in a block of `key:value` pairs. The pairs are kept sorted by key, in
the order of code points, each key once.

## Main results

* `Metadata.get?_insert`: inserting a pair changes what its key stands for and nothing else.
-/

namespace TrackedComments

/-- Pairs of keys and values in ascending order of the keys. -/
structure Metadata where
  entries : List (String × String)
  sorted : entries.Pairwise fun a b => a.1 < b.1 := by simp
  deriving DecidableEq

namespace Metadata

/-- No pairs. -/
def empty : Metadata := ⟨[], .nil⟩

instance : Inhabited Metadata := ⟨empty⟩

/-- Puts a pair in its place, over a pair with the same key. -/
def insertEntry (key value : String) : List (String × String) → List (String × String)
  | [] => [(key, value)]
  | (k, v) :: rest =>
    if key < k then (key, value) :: (k, v) :: rest
    else if key = k then (key, value) :: rest
    else (k, v) :: insertEntry key value rest

/-- An inserted entry is added to those that are there. -/
theorem mem_insertEntry {key value : String} {entries : List (String × String)}
    {e : String × String} (h : e ∈ insertEntry key value entries) :
    e = (key, value) ∨ e ∈ entries := by
  fun_induction insertEntry key value entries <;> grind

/-- Of two different keys one is before the other. -/
theorem lt_of_not_lt_of_ne {a b : String} (h : ¬ a < b) (hne : a ≠ b) : b < a := by
  rcases Decidable.em (b < a) with hlt | hlt
  · exact hlt
  · exact absurd (String.le_antisymm (String.not_lt.mp hlt) (String.not_lt.mp h)) hne

/-- Inserting an entry leaves the keys in order. -/
theorem pairwise_insertEntry (key value : String) {entries : List (String × String)}
    (h : entries.Pairwise fun a b => a.1 < b.1) :
    (insertEntry key value entries).Pairwise fun a b => a.1 < b.1 := by
  fun_induction insertEntry key value entries with
  | case1 => simp
  | case2 k v rest hlt =>
    refine List.pairwise_cons.mpr ⟨?_, h⟩
    intro e he
    rcases List.mem_cons.mp he with rfl | he
    · exact hlt
    · exact String.lt_trans hlt ((List.pairwise_cons.mp h).1 e he)
  | case3 v rest => exact List.pairwise_cons.mpr (List.pairwise_cons.mp h)
  | case4 k v rest hlt hne ih =>
    obtain ⟨hhead, htail⟩ := List.pairwise_cons.mp h
    refine List.pairwise_cons.mpr ⟨?_, ih htail⟩
    intro e he
    rcases mem_insertEntry he with rfl | he
    · exact lt_of_not_lt_of_ne hlt hne
    · exact hhead e he

/-- Sets what a key stands for. -/
def insert (m : Metadata) (key value : String) : Metadata :=
  ⟨insertEntry key value m.entries, pairwise_insertEntry key value m.sorted⟩

/-- The value of a key. -/
def get? (m : Metadata) (key : String) : Option String :=
  m.entries.lookup key

/-- The pairs of a list, of which the last one with a key counts. -/
def ofList (pairs : List (String × String)) : Metadata :=
  pairs.foldl (fun m (key, value) => m.insert key value) empty

/-- The key and the value that a segment of a metadata block gives, if it gives both. -/
def readSegment (segment : List Char) : Option (String × String) :=
  match Chars.splitOnce ':' (Chars.trim segment) with
  | none => none
  | some (key, value) =>
    let key := Chars.trim key
    let value := Chars.trim value
    if key.isEmpty || value.isEmpty then none
    else some (String.ofList key, String.ofList value)

/-- Reads the inside of a metadata block: pairs with `;` or `,` between them. What is no pair is
passed over. -/
def read (block : List Char) : Metadata :=
  ofList ((Chars.splitWhen (fun c => c == ';' || c == ',') block).filterMap readSegment)

/-- The value that has been inserted under a key is found under it, and the others as before. -/
theorem lookup_insertEntry (key value other : String) (entries : List (String × String)) :
    (insertEntry key value entries).lookup other =
      if other = key then some value else entries.lookup other := by
  fun_induction insertEntry key value entries <;> grind

/-- Inserting a pair changes what its key stands for and nothing else. -/
theorem get?_insert (m : Metadata) (key value other : String) :
    (m.insert key value).get? other = if other = key then some value else m.get? other :=
  lookup_insertEntry key value other m.entries

end Metadata

end TrackedComments

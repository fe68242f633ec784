import Mathlib.Data.List.Infix
import TrackedComments.Glob.Basic

/-!
# What globs stand for

A glob stands for sequences of bytes, put together from those that its parts stand for. The
remainders that matching keeps track of are what is left of a path once such a sequence has been
taken off its front. All of them are ends of the path, so that one of each length is enough, and
what is left when any bytes are taken off depends on the longest one alone.

## Main results

* `Glob.leaves_advance`: what a glob leaves of the remainders of a path.
* `Glob.accepts_iff_matches`: a glob accepts the paths that it stands for, and no others.
-/

namespace TrackedComments

/-- The sequences of bytes that a token stands for. -/
def GlobToken.Matches (separated : Bool) (piece : List UInt8) : GlobToken → Prop
  | byte b => piece = [b]
  | anyByte => ∃ b, ¬ (separated ∧ b = slash) ∧ piece = [b]
  | star => ¬ (separated ∧ slash ∈ piece)
  | leadingDirectories => piece = [] ∨ ∃ directories, piece = directories ++ [slash]
  | everythingBelow => ∃ below, piece = slash :: below
  | innerDirectories => piece = [slash] ∨ ∃ directories, piece = slash :: (directories ++ [slash])
  | oneOf negated ranges =>
    ∃ b, ((∃ range ∈ ranges, range.1 ≤ b ∧ b ≤ range.2) ↔ negated = false) ∧ piece = [b]

namespace Glob

/-- The sequences of bytes that a glob stands for. -/
def Matches (separated : Bool) : Glob → List UInt8 → Prop
  | empty, piece => piece = []
  | token t, piece => t.Matches separated piece
  | seq g h, piece =>
    ∃ first second, piece = first ++ second ∧ g.Matches separated first ∧
      h.Matches separated second
  | alt g h, piece => g.Matches separated piece ∨ h.Matches separated piece

variable {separated : Bool} {path r : List UInt8} {rs ss : Remainders}

/-! ### The ends of a path -/

/-- The tails of a path are all of its ends. -/
theorem mem_tails : r ∈ tails path ↔ r <:+ path := by
  induction path with
  | nil => simp [tails]
  | cons b path ih => rw [tails, List.mem_cons, ih, List.suffix_cons_iff]

/-- The tails of a path stand in order, the longest first. -/
theorem pairwise_tails (path : List UInt8) :
    (tails path).Pairwise fun r s => s.length < r.length := by
  induction path with
  | nil => simp [tails]
  | cons b path ih =>
    refine List.pairwise_cons.mpr ⟨fun s hs => ?_, ih⟩
    have hle := (mem_tails.mp hs).length_le
    simp only [List.length_cons]
    omega

/-- The ends of a path that follow a slash. -/
theorem mem_afterSlashes : r ∈ afterSlashes path ↔ slash :: r <:+ path := by
  induction path with
  | nil => simp [afterSlashes]
  | cons b path ih =>
    rw [afterSlashes, List.suffix_cons_iff, ← ih]
    split
    · simp_all
    · have hne : slash ≠ b := Ne.symm ‹_›
      simp [hne]

/-- The ends that follow a slash stand in order, the longest first. -/
theorem pairwise_afterSlashes (path : List UInt8) :
    (afterSlashes path).Pairwise fun r s => s.length < r.length := by
  induction path with
  | nil => simp [afterSlashes]
  | cons b path ih =>
    rw [afterSlashes]
    split
    · exact List.pairwise_cons.mpr
        ⟨fun s hs => Nat.lt_of_succ_le (mem_afterSlashes.mp hs).length_le, ih⟩
    · exact ih

/-- The ends of a path before which no slash is passed. -/
theorem mem_tailsToSlash :
    r ∈ tailsToSlash path ↔ ∃ piece, slash ∉ piece ∧ piece ++ r = path := by
  induction path with
  | nil => simp [tailsToSlash]
  | cons b path ih =>
    rw [tailsToSlash, List.mem_cons]
    constructor
    · rintro (rfl | hr)
      · exact ⟨[], by simp, rfl⟩
      · split at hr
        · simp at hr
        · obtain ⟨piece, hpiece, rfl⟩ := ih.mp hr
          exact ⟨b :: piece, by simp [hpiece, Ne.symm ‹_›], rfl⟩
    · rintro ⟨piece, hpiece, hpath⟩
      rcases List.append_eq_cons_iff.mp hpath with ⟨rfl, rfl⟩ | ⟨rest, rfl, rfl⟩
      · exact .inl rfl
      · rw [List.mem_cons, not_or] at hpiece
        exact .inr (by rw [if_neg (Ne.symm hpiece.1)]; exact ih.mpr ⟨rest, hpiece.2, rfl⟩)

/-- The ends up to the first slash are some of the tails, in their order. -/
theorem tailsToSlash_sublist_tails (path : List UInt8) :
    (tailsToSlash path).Sublist (tails path) := by
  induction path with
  | nil => exact .refl _
  | cons b path ih =>
    rw [tailsToSlash, tails]
    split
    · exact (List.nil_sublist _).cons_cons _
    · exact ih.cons_cons _

/-! ### Remainders -/

/-- Remainders of a path: ends of it, the longest first and each length once. -/
structure AreRemainders (path : List UInt8) (rs : Remainders) : Prop where
  suffix : ∀ r ∈ rs, r <:+ path
  descending : rs.Pairwise fun r s => s.length < r.length

/-- The tails of a remainder are remainders of the path. -/
theorem areRemainders_tails (h : r <:+ path) : AreRemainders path (tails r) :=
  ⟨fun _ hs => (mem_tails.mp hs).trans h, pairwise_tails r⟩

/-- The ends of a remainder that follow a slash are remainders of the path. -/
theorem areRemainders_afterSlashes (h : r <:+ path) : AreRemainders path (afterSlashes r) :=
  ⟨fun _ hs => ((List.suffix_cons _ _).trans (mem_afterSlashes.mp hs)).trans h,
    pairwise_afterSlashes r⟩

/-- Some remainders in their order are remainders. -/
theorem AreRemainders.sublist (h : AreRemainders path rs) (hss : ss.Sublist rs) :
    AreRemainders path ss :=
  ⟨fun s hs => h.suffix s (hss.subset hs), h.descending.sublist hss⟩

/-- A longer end of the path may be put before remainders. -/
theorem AreRemainders.cons (h : AreRemainders path rs) (hr : r <:+ path)
    (hlt : ∀ s ∈ rs, s.length < r.length) : AreRemainders path (r :: rs) :=
  ⟨fun _ hs => (List.mem_cons.mp hs).elim (fun heq => heq ▸ hr) (h.suffix _),
    List.pairwise_cons.mpr ⟨hlt, h.descending⟩⟩

/-- The first remainder ends in all of them. -/
theorem AreRemainders.suffix_head (h : AreRemainders path (r :: rs)) {s : List UInt8}
    (hs : s ∈ r :: rs) : s <:+ r := by
  rcases List.mem_cons.mp hs with rfl | hmem
  · exact List.suffix_refl s
  · exact List.suffix_of_suffix_length_le (h.suffix s hs) (h.suffix r List.mem_cons_self)
      ((List.pairwise_cons.mp h.descending).1 s hmem).le

/-- The ends of all remainders are those of the first one. -/
theorem AreRemainders.exists_append_mem_iff (h : AreRemainders path (r :: rs)) {t : List UInt8} :
    (∃ piece, piece ++ t ∈ r :: rs) ↔ t <:+ r := by
  constructor
  · rintro ⟨piece, hpiece⟩
    exact (List.suffix_append piece t).trans (h.suffix_head hpiece)
  · rintro ⟨piece, rfl⟩
    exact ⟨piece, List.mem_cons_self⟩

/-- Ends of a path that stand in order are its remainders once those that repeat the length of the
one before are dropped, and none gets lost. -/
theorem areRemainders_dedup (hsuffix : ∀ r ∈ rs, r <:+ path)
    (hsorted : rs.Pairwise fun r s => s.length ≤ r.length) :
    AreRemainders path (dedup rs) ∧ ∀ r, r ∈ dedup rs ↔ r ∈ rs := by
  fun_induction dedup rs with
  | case1 => exact ⟨⟨by simp, .nil⟩, by simp⟩
  | case2 r => exact ⟨⟨hsuffix, List.pairwise_singleton _ r⟩, by simp⟩
  | case3 r s rest hlength ih =>
    obtain ⟨ih, hmem⟩ := ih (fun t ht => hsuffix t (List.mem_cons_of_mem r ht)) hsorted.of_cons
    have hsr : s <:+ r :=
      List.suffix_of_suffix_length_le (hsuffix s (by simp)) (hsuffix r (by simp)) hlength.ge
    obtain rfl := hsr.eq_of_length hlength.symm
    exact ⟨ih, fun t => by simp [hmem]⟩
  | case4 r s rest hlength ih =>
    obtain ⟨ih, hmem⟩ := ih (fun t ht => hsuffix t (List.mem_cons_of_mem r ht)) hsorted.of_cons
    obtain ⟨hr, hrest⟩ := List.pairwise_cons.mp hsorted
    have hs : s.length < r.length := lt_of_le_of_ne (hr s List.mem_cons_self) (Ne.symm hlength)
    have hlt : ∀ t ∈ s :: rest, t.length < r.length := by
      intro t ht
      rcases List.mem_cons.mp ht with rfl | ht
      · exact hs
      · exact ((List.pairwise_cons.mp hrest).1 t ht).trans_lt hs
    exact ⟨ih.cons (hsuffix r List.mem_cons_self) fun t ht => hlt t ((hmem t).mp ht),
      fun t => by simp only [List.mem_cons, hmem]⟩

/-- Merged remainders are remainders: those of both lists and no others. -/
theorem areRemainders_merge (hr : AreRemainders path rs) (hs : AreRemainders path ss) :
    AreRemainders path (merge rs ss) ∧ ∀ r, r ∈ merge rs ss ↔ r ∈ rs ∨ r ∈ ss := by
  have hsorted := @List.pairwise_merge _ (fun r s : List UInt8 => decide (s.length ≤ r.length))
    (by simpa using fun a b c h h' => h'.trans h) (by simpa using fun a b => Nat.le_total _ _)
    rs ss (hr.descending.imp fun h => by simpa using h.le)
    (hs.descending.imp fun h => by simpa using h.le)
  simp only [decide_eq_true_eq] at hsorted
  have hsuffix : ∀ r ∈ rs.merge ss fun r s => decide (s.length ≤ r.length), r <:+ path :=
    fun r h => (List.mem_merge.mp h).elim (hr.suffix r) (hs.suffix r)
  obtain ⟨hmerge, hmem⟩ := areRemainders_dedup hsuffix hsorted
  exact ⟨hmerge, fun r => (hmem r).trans List.mem_merge⟩

/-! ### What is left -/

/-- What is left of remainders when sequences of bytes that satisfy a predicate are taken off their
front. -/
structure Leaves (path : List UInt8) (P : List UInt8 → Prop) (rs left : Remainders) : Prop where
  areRemainders : AreRemainders path left
  mem_iff : ∀ r, r ∈ left ↔ ∃ piece, P piece ∧ piece ++ r ∈ rs

variable {P Q : List UInt8 → Prop} {left more : Remainders}

/-- What is left depends only on which sequences are taken off. -/
theorem Leaves.of_iff (h : Leaves path P rs left) (hPQ : ∀ piece, P piece ↔ Q piece) :
    Leaves path Q rs left :=
  ⟨h.areRemainders, fun r => by simp only [h.mem_iff, hPQ]⟩

/-- Taking off nothing leaves the remainders as they are. -/
theorem leaves_self (h : AreRemainders path rs) : Leaves path (· = []) rs rs :=
  ⟨h, by simp⟩

/-- One sequence after the other. -/
theorem Leaves.trans (h : Leaves path P rs left) (h' : Leaves path Q left more) :
    Leaves path (fun piece => ∃ first second, piece = first ++ second ∧ P first ∧ Q second)
      rs more := by
  refine ⟨h'.areRemainders, fun r => (h'.mem_iff r).trans ⟨?_, ?_⟩⟩
  · rintro ⟨second, hsecond, hleft⟩
    obtain ⟨first, hfirst, hmem⟩ := (h.mem_iff _).mp hleft
    exact ⟨first ++ second, ⟨first, second, rfl, hfirst, hsecond⟩, by simpa using hmem⟩
  · rintro ⟨_, ⟨first, second, rfl, hfirst, hsecond⟩, hmem⟩
    exact ⟨second, hsecond, (h.mem_iff _).mpr ⟨first, hfirst, by simpa using hmem⟩⟩

/-- One sequence or the other. -/
theorem Leaves.merge (h : Leaves path P rs left) (h' : Leaves path Q rs more) :
    Leaves path (fun piece => P piece ∨ Q piece) rs (merge left more) := by
  obtain ⟨hmerge, hmem⟩ := areRemainders_merge h.areRemainders h'.areRemainders
  refine ⟨hmerge, fun r => ?_⟩
  rw [hmem, h.mem_iff, h'.mem_iff]
  simp only [or_and_right, exists_or]

/-- A byte is taken off the front of the remainders that begin with a fitting one. -/
theorem mem_dropByte {p : UInt8 → Bool} : r ∈ dropByte p rs ↔ ∃ b, p b ∧ b :: r ∈ rs := by
  rw [dropByte, List.mem_filterMap]
  constructor
  · rintro ⟨whole, hwhole, hr⟩
    cases whole with
    | nil => simp at hr
    | cons b rest =>
      dsimp only at hr
      split at hr
      · obtain rfl := Option.some.inj hr
        exact ⟨b, ‹_›, hwhole⟩
      · simp at hr
  · rintro ⟨b, hb, hwhole⟩
    exact ⟨b :: r, hwhole, by simp [hb]⟩

/-- What is left when one fitting byte is taken off. -/
theorem leaves_dropByte (h : AreRemainders path rs) (p : UInt8 → Bool) :
    Leaves path (fun piece => ∃ b, p b ∧ piece = [b]) rs (dropByte p rs) := by
  refine ⟨⟨fun r hr => ?_, List.pairwise_filterMap.mpr (h.descending.imp ?_)⟩, fun r => ?_⟩
  · obtain ⟨b, -, hmem⟩ := mem_dropByte.mp hr
    exact (List.suffix_cons b r).trans (h.suffix _ hmem)
  · rintro (_ | ⟨b, r⟩) (_ | ⟨c, s⟩) hlt <;> simp_all
  · rw [mem_dropByte]
    constructor
    · rintro ⟨b, hb, hmem⟩
      exact ⟨[b], ⟨b, hb, rfl⟩, hmem⟩
    · rintro ⟨_, ⟨b, hb, rfl⟩, hmem⟩
      exact ⟨b, hb, hmem⟩

/-- What is left when any sequence is taken off. -/
theorem leaves_dropAny (h : AreRemainders path rs) :
    Leaves path (fun _ => True) rs (dropAny rs) := by
  cases rs with
  | nil => exact ⟨h, by simp [dropAny]⟩
  | cons r rs =>
    refine ⟨areRemainders_tails (h.suffix r List.mem_cons_self), fun s => ?_⟩
    simp only [dropAny, mem_tails, true_and, h.exists_append_mem_iff]

/-- What is left when any sequence is taken off that ends in a slash. -/
theorem leaves_dropDirectories (h : AreRemainders path rs) :
    Leaves path (fun piece => ∃ directories, piece = directories ++ [slash]) rs
      (dropDirectories rs) := by
  cases rs with
  | nil => exact ⟨h, by simp [dropDirectories]⟩
  | cons r rs =>
    refine ⟨areRemainders_afterSlashes (h.suffix r List.mem_cons_self), fun s => ?_⟩
    rw [dropDirectories, mem_afterSlashes, ← h.exists_append_mem_iff]
    constructor
    · rintro ⟨directories, hmem⟩
      exact ⟨directories ++ [slash], ⟨directories, rfl⟩, by simpa using hmem⟩
    · rintro ⟨_, ⟨directories, rfl⟩, hmem⟩
      exact ⟨directories, by simpa using hmem⟩

/-- What is left when any sequence without a slash is taken off. -/
theorem leaves_tailsToSlash (h : ∀ r ∈ rs, r <:+ path) :
    Leaves path (fun piece => slash ∉ piece) rs
      (rs.foldr (fun r acc => Glob.merge (tailsToSlash r) acc) []) := by
  induction rs with
  | nil => exact ⟨⟨by simp, .nil⟩, by simp⟩
  | cons r rs ih =>
    have ih := ih fun s hs => h s (List.mem_cons_of_mem r hs)
    have hr := (areRemainders_tails (h r List.mem_cons_self)).sublist (tailsToSlash_sublist_tails r)
    obtain ⟨hmerge, hmem⟩ := areRemainders_merge hr ih.areRemainders
    refine ⟨hmerge, fun s => ?_⟩
    rw [List.foldr_cons, hmem, mem_tailsToSlash, ih.mem_iff]
    simp only [List.mem_cons, and_or_left, exists_or]

/-- What a token leaves of the remainders of a path. -/
theorem leaves_tokenAdvance (h : AreRemainders path rs) (t : GlobToken) :
    Leaves path (t.Matches separated) rs (t.advance separated rs) := by
  cases t with
  | byte b => exact (leaves_dropByte h _).of_iff (by simp [GlobToken.Matches])
  | anyByte =>
    refine (leaves_dropByte h _).of_iff fun piece => ?_
    cases separated <;> simp [GlobToken.Matches]
  | star =>
    rw [GlobToken.advance]
    split
    · exact (leaves_tailsToSlash h.suffix).of_iff (by simp_all [GlobToken.Matches])
    · exact (leaves_dropAny h).of_iff (by simp_all [GlobToken.Matches])
  | leadingDirectories => exact (leaves_self h).merge (leaves_dropDirectories h)
  | everythingBelow =>
    have hslash := leaves_dropByte h (· == slash)
    exact (hslash.trans (leaves_dropAny hslash.areRemainders)).of_iff
      (by simp [GlobToken.Matches])
  | innerDirectories =>
    have hslash := leaves_dropByte h (· == slash)
    have hinside := (leaves_self hslash.areRemainders).merge
      (leaves_dropDirectories hslash.areRemainders)
    refine (hslash.trans hinside).of_iff fun piece => ?_
    simp [GlobToken.Matches, and_or_left, exists_or]
  | oneOf negated ranges =>
    refine (leaves_dropByte h _).of_iff fun piece => ?_
    cases negated <;> simp [GlobToken.Matches]

/-- What a glob leaves of the remainders of a path. -/
theorem leaves_advance (h : AreRemainders path rs) (g : Glob) :
    Leaves path (g.Matches separated) rs (g.advance separated rs) := by
  induction g generalizing rs with
  | empty => exact leaves_self h
  | token t => exact leaves_tokenAdvance h t
  | seq g k ihg ihk => exact (ihg h).trans (ihk (ihg h).areRemainders)
  | alt g k ihg ihk => exact (ihg h).merge (ihk h)

/-- A glob accepts the paths that it stands for, and no others. -/
theorem accepts_iff_matches {g : Glob} :
    g.accepts separated path ↔ g.Matches separated path := by
  have h : AreRemainders path [path] := ⟨by simp, List.pairwise_singleton _ path⟩
  rw [accepts, List.contains_iff_mem, (leaves_advance h g).mem_iff]
  simp

/-! ### Globs put together -/

theorem sequence_singleton (g : Glob) : sequence [g] = g := rfl

/-- A sequence stands for what its first glob stands for, followed by the rest. -/
theorem matches_sequence_cons {g : Glob} {rest : List Glob} {piece : List UInt8} :
    (sequence (g :: rest)).Matches separated piece ↔
      ∃ first second, piece = first ++ second ∧ g.Matches separated first ∧
        (sequence rest).Matches separated second := by
  cases rest with
  | nil => simp [sequence, Matches]
  | cons k rest => rfl

/-- A choice stands for what one of its globs stands for. -/
theorem matches_choice {gs : List Glob} (h : gs ≠ []) {piece : List UInt8} :
    (choice gs).Matches separated piece ↔ ∃ g ∈ gs, g.Matches separated piece := by
  fun_induction choice gs with
  | case1 => exact absurd rfl h
  | case2 g => simp
  | case3 g rest hrest ih => simp [Matches, ih hrest]

/-- Bytes stand for themselves. -/
theorem matches_bytes {bytes piece : List UInt8} :
    (sequence (bytes.map fun b => .token (.byte b))).Matches separated piece ↔ piece = bytes := by
  induction bytes generalizing piece with
  | nil => rfl
  | cons b bytes ih =>
    rw [List.map_cons, matches_sequence_cons]
    simp [ih, Matches, GlobToken.Matches]

end Glob

end TrackedComments

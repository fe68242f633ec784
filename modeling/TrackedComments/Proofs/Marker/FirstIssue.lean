import Mathlib.Data.Nat.Find
import TrackedComments.Proofs.Scan.DefaultPattern

/-!
# The first issue number of a line

A line may hold several markers, and some of them may give no issue number: a zero, a number beyond
64 bits, or digits of another script than ASCII. The number of the line is read from its first
marker of all. So it is that of the first marker that gives one, unless a marker that gives none
stands before it, in which case the line has no number at all.

## Main results

* `Marker.exists_firstIssue`: a line with an issue number has a first one.
* `Marker.FirstIssue.find?_eq`: what is read from a line with an issue number.
* `Marker.find?_iff_not_faultyBefore`: when the first issue number of a line is read, by itself and
  in a scan.
* `Marker.find?_zeroFirst`: a line whose issue number is overlooked.
-/

namespace TrackedComments.Marker

variable {line before digits : List Char} {n : UInt64}

/-- The leftmost marker of a line that gives an issue number: where it stands, and the number. -/
structure FirstIssue (line before : List Char) (n : UInt64) : Prop where
  stands : ∃ digits, StandsAfter line before digits ∧ GivesIssue digits n
  leftmost : ∀ before' digits' n', StandsAfter line before' digits' → GivesIssue digits' n' →
    before.length ≤ before'.length

/-- Whether a marker that gives no issue number stands in a line before some place. -/
def FaultyBefore (line before : List Char) : Prop :=
  ∃ before' digits', StandsAfter line before' digits' ∧ (∀ n, ¬ GivesIssue digits' n) ∧
    before'.length < before.length

/-- A line with an issue number has a first one. -/
theorem exists_firstIssue (h : StandsAfter line before digits) (hissue : GivesIssue digits n) :
    ∃ before n, FirstIssue line before n := by
  classical
  have hexists : ∃ k before digits n, StandsAfter line before digits ∧ GivesIssue digits n ∧
      before.length = k := ⟨_, before, digits, n, h, hissue, rfl⟩
  obtain ⟨before, digits, n, h, hissue, hlength⟩ := Nat.find_spec hexists
  refine ⟨before, n, ⟨digits, h, hissue⟩, fun before' digits' n' h' hissue' => ?_⟩
  rw [hlength]
  exact Nat.find_min' hexists ⟨before', digits', n', h', hissue', rfl⟩

/-- The number of a line is its first issue number, unless a faulty marker stands before that. -/
theorem FirstIssue.find?_eq (h : FirstIssue line before n) :
    (FaultyBefore line before → find? line = none) ∧
      (¬ FaultyBefore line before → find? line = some n) := by
  obtain ⟨digits, hstands, hissue⟩ := h.stands
  obtain ⟨digits₀, hdigits₀⟩ := Option.ne_none_iff_exists'.mp hstands.firstDigits?_ne_none
  obtain ⟨before₀, hstands₀, hfirst₀⟩ := exists_standsAfter_of_firstDigits? hdigits₀
  rw [find?, hdigits₀, Option.bind_some]
  constructor
  · -- the first marker of all stands no later than the faulty one, so it gives no number either
    rintro ⟨before', digits', hstands', -, hlt⟩
    refine Option.eq_none_iff_forall_ne_some.mpr fun n₀ hn₀ => ?_
    have hle := h.leftmost before₀ digits₀ n₀ hstands₀ (number?_eq_some_iff.mp hn₀)
    have hle' := hfirst₀ before' digits' hstands'
    omega
  · intro hnot
    have hle : before.length ≤ before₀.length := by
      by_contra hlt
      refine hnot ⟨before₀, digits₀, hstands₀, fun n₀ hn₀ => ?_, Nat.not_le.mp hlt⟩
      exact hlt (h.leftmost before₀ digits₀ n₀ hstands₀ hn₀)
    have hlength := Nat.le_antisymm hle (hfirst₀ before digits hstands)
    obtain ⟨-, rfl⟩ := hstands.unique hstands₀ hlength
    exact number?_eq_some_iff.mpr hissue

/-- A line with an issue number has a first one. The line has this number, and every scan that
recognises the line reports it, exactly if no faulty marker stands before; otherwise the line has no
number. Whether its markers are taken off has no part in this. -/
theorem find?_iff_not_faultyBefore (hstands : StandsAfter line before digits)
    (hissue : GivesIssue digits n) :
    ∃ place first, FirstIssue line place first ∧
      (find? line = some first ↔ ¬ FaultyBefore line place) ∧
      (find? line = none ↔ FaultyBefore line place) ∧
      ∀ (p : ScanPattern) (found : LineMatch), p.scanLine line = some found →
        (found.issueNumber = some first ↔ ¬ FaultyBefore line place) ∧
        (found.issueNumber = none ↔ FaultyBefore line place) := by
  obtain ⟨place, first, hfirst⟩ := exists_firstIssue hstands hissue
  obtain ⟨hnone, hsome⟩ := hfirst.find?_eq
  have hiff : (find? line = some first ↔ ¬ FaultyBefore line place) ∧
      (find? line = none ↔ FaultyBefore line place) := by
    by_cases hfaulty : FaultyBefore line place
    · simp [hnone hfaulty, hfaulty]
    · simp [hsome hfaulty, hfaulty]
  refine ⟨place, first, hfirst, hiff.1, hiff.2, fun p found hfound => ?_⟩
  rw [ScanPattern.issueNumber_of_scanLine hfound]
  exact hiff

/-- Text in a bracket that is no number is no marker, zeros in front of a number have no part in it,
and a faulty marker that stands after it does no harm. -/
def faultyLast : List Char := "// ERROR: x [GH-#x] [GH-#007] [GH-#0]".toList

/-- A faulty marker behind the first proper one does no harm. -/
theorem find?_faultyLast :
    ∃ place, FirstIssue faultyLast place 7 ∧ ¬ FaultyBefore faultyLast place ∧
      find? faultyLast = some 7 := by
  have hstands : StandsAfter faultyLast "// ERROR: x [GH-#x] ".toList "007".toList :=
    ⟨by decide, List.all_eq_true.mp (by decide), " [GH-#0]".toList, by decide⟩
  have hissue : GivesIssue "007".toList 7 :=
    ⟨List.all_eq_true.mp (by decide), by decide, by decide⟩
  have hfind : find? faultyLast = some 7 := by decide
  obtain ⟨place, first, hfirst, hsome, hnone, -⟩ := find?_iff_not_faultyBefore hstands hissue
  have hnot : ¬ FaultyBefore faultyLast place := by
    rw [← hnone, hfind]
    simp
  obtain rfl : 7 = first := Option.some.inj (hfind.symm.trans (hsome.mpr hnot))
  exact ⟨place, hfirst, hnot, hfind⟩

/-- A line with a marker for no issue in front of one for an issue. -/
def zeroFirst : List Char := "// ERROR: x [GH-#0] [GH-#5]".toList

/-- The issue number of this line is overlooked, although its marker is taken off. -/
theorem find?_zeroFirst :
    StandsAfter zeroFirst "// ERROR: x [GH-#0] ".toList ['5'] ∧ GivesIssue ['5'] 5 ∧
      find? zeroFirst = none ∧ stripTrailing zeroFirst = "// ERROR: x".toList ∧
      ∃ p found, ScanPattern.ofString ScanPattern.defaultSource = .ok p ∧
        p.scanLine zeroFirst = some found ∧ found.issueNumber = none := by
  have hlf : '\n' ∉ zeroFirst := by decide
  have hstrip : stripTrailing zeroFirst = "// ERROR: x".toList := by decide +kernel
  have hnone : find? zeroFirst = none := by decide
  obtain ⟨p, hp⟩ : ∃ p, ScanPattern.ofString ScanPattern.defaultSource = .ok p :=
    ⟨_, ScanPattern.ofString_defaultSource⟩
  have hmatch : p.scanLine zeroFirst ≠ none := by
    rw [ne_eq, ScanPattern.scanLine_eq_none_iff hp hlf]
    intro hempty
    have hheading : Pattern.IsHeading "// ERROR:".toList :=
      ⟨[' '], List.all_eq_true.mp (by decide), rfl⟩
    exact absurd (hempty [] "// ERROR:".toList " x".toList hstrip hheading) (by decide)
  obtain ⟨found, hfound⟩ := Option.ne_none_iff_exists'.mp hmatch
  refine ⟨⟨by decide, List.all_eq_true.mp (by decide), [], by decide⟩,
    ⟨List.all_eq_true.mp (by decide), by decide, by decide⟩, hnone, hstrip, p, found, hp, hfound,
    ?_⟩
  rw [ScanPattern.issueNumber_of_scanLine hfound, hnone]

end TrackedComments.Marker

import Mathlib.Data.List.TakeWhile
import TrackedComments.Proofs.Text.Offsets
import TrackedComments.Tracker.GitHub

/-!
# Addresses of lines

The address of a line names the owner and the repository, a branch or a commit, the file and the
line. Whoever follows it takes it apart again: what stands after the first `#` is the fragment, what
stands after the first `?` in front of that is the query, and in the path every `%` with two
hexadecimal digits is one byte. The parts of an address are put together as they are, without
encoding them. So an address leads to its line exactly if neither the reference nor the file holds
one of those characters in such a place.

## Main definitions

* `Address.read?`: an address as it is taken apart.
* `Address.ofLine`: the address that leads to a line.
* `Percent.StandsForItself`: the texts that can be part of a path as they are.

## Main results

* `Percent.decode_eq_utf8Bytes_iff`: which texts decoding leaves alone.
* `GitHubSettings.read?_blobUrl_iff`: when an address leads to its line.
* `GitHubTracker.read?_links_iff`: the same for both kinds of links.
* `GitHubTracker.read?_link_numberSign`: a link that leads elsewhere.
-/

namespace TrackedComments

/-! ### Encoded bytes -/

namespace Percent

variable {cs before after : List Char} {c d e : Char}

/-- Whether characters are read as one encoded byte. -/
structure IsEscape (c d e : Char) : Prop where
  percent : c = '%'
  high : (hexValue? d).isSome
  low : (hexValue? e).isSome

/-- Whether an encoded byte stands somewhere in a text. -/
def HoldsEscape (cs : List Char) : Prop :=
  ∃ before c d e after, cs = before ++ c :: d :: e :: after ∧ IsEscape c d e

/-- Fewer than three characters hold no encoded byte. -/
theorem not_holdsEscape_of_length_lt (h : cs.length < 3) : ¬ HoldsEscape cs := by
  rintro ⟨before, c, d, e, after, rfl, -⟩
  simp only [List.length_append, List.length_cons] at h
  omega

/-- An encoded byte stands at the front of a text or behind its first character. -/
theorem holdsEscape_cons_iff {rest : List Char} :
    HoldsEscape (c :: d :: e :: rest) ↔ IsEscape c d e ∨ HoldsEscape (d :: e :: rest) := by
  constructor
  · rintro ⟨before, c', d', e', after, heq, hescape⟩
    cases before with
    | nil =>
      obtain ⟨rfl, rfl, rfl, -⟩ : c = c' ∧ d = d' ∧ e = e' ∧ rest = after := by simpa using heq
      exact .inl hescape
    | cons b before => exact .inr ⟨before, c', d', e', after, (List.cons.inj heq).2, hescape⟩
  · rintro (hescape | ⟨before, c', d', e', after, heq, hescape⟩)
    · exact ⟨[], c, d, e, rest, rfl, hescape⟩
    · exact ⟨c :: before, c', d', e', after, by rw [heq]; rfl, hescape⟩

/-- No encoded byte reaches over a character that is neither `%` nor a digit. -/
theorem holdsEscape_append_cons_iff (hpercent : c ≠ '%') (hdigit : hexValue? c = none) :
    HoldsEscape (before ++ c :: after) ↔ HoldsEscape before ∨ HoldsEscape after := by
  constructor
  · rintro ⟨front, x, y, z, back, heq, hescape⟩
    rcases List.append_eq_append_iff.mp heq with ⟨more, rfl, hmore⟩ | ⟨more, rfl, hmore⟩
    · cases more with
      | nil => exact absurd ((List.cons.inj hmore).1.trans hescape.percent) hpercent
      | cons c' more => exact .inr ⟨more, x, y, z, back, (List.cons.inj hmore).2, hescape⟩
    · -- the character is none of the three, so they all stand before it
      rcases more with _ | ⟨x', _ | ⟨y', _ | ⟨z', more⟩⟩⟩
      · exact absurd ((List.cons.inj hmore).1.symm.trans hescape.percent) hpercent
      · obtain ⟨-, rfl, -⟩ : x = x' ∧ y = c ∧ z :: back = after := by simpa using hmore
        have hhigh := hescape.high
        simp [hdigit] at hhigh
      · obtain ⟨-, -, rfl, -⟩ : x = x' ∧ y = y' ∧ z = c ∧ back = after := by simpa using hmore
        have hlow := hescape.low
        simp [hdigit] at hlow
      · obtain ⟨rfl, rfl, rfl, -⟩ : x = x' ∧ y = y' ∧ z = z' ∧ back = more ++ c :: after := by
          simpa using hmore
        exact .inl ⟨front, x, y, z, more, rfl, hescape⟩
  · rintro (⟨front, x, y, z, back, rfl, hescape⟩ | ⟨front, x, y, z, back, rfl, hescape⟩)
    · exact ⟨front, x, y, z, back ++ c :: after, by simp, hescape⟩
    · exact ⟨before ++ c :: front, x, y, z, back, by simp, hescape⟩

/-- Decoding makes a text no longer. -/
theorem length_decode_le (cs : List Char) : (decode cs).length ≤ byteLength cs := by
  fun_induction decode cs with
  | case1 => exact Nat.le_refl _
  | case2 c => exact Nat.le_of_eq (by simp)
  | case3 c d ih =>
    rw [List.length_append, String.length_utf8EncodeChar, byteLength_cons]
    omega
  | case4 c d e rest high low _ _ _ ih =>
    have hc := c.utf8Size_pos
    simp only [List.length_cons, byteLength_cons]
    omega
  | case5 c d e rest _ ih =>
    rw [List.length_append, String.length_utf8EncodeChar, byteLength_cons]
    omega

/-- Decoding leaves a text alone unless it holds an encoded byte. -/
theorem decode_eq_utf8Bytes_iff : decode cs = utf8Bytes cs ↔ ¬ HoldsEscape cs := by
  fun_induction decode cs with
  | case1 => exact iff_of_true rfl (not_holdsEscape_of_length_lt (by simp))
  | case2 c =>
    exact iff_of_true (List.append_nil _).symm (not_holdsEscape_of_length_lt (by simp))
  | case3 c d ih =>
    rw [utf8Bytes_cons, List.append_cancel_left_eq, ih]
    exact iff_of_true (not_holdsEscape_of_length_lt (by simp))
      (not_holdsEscape_of_length_lt (by simp))
  | case4 c d e rest high low hlow hhigh hpercent ih =>
    have hescape : IsEscape c d e := ⟨by simpa using hpercent, by simp [hhigh], by simp [hlow]⟩
    refine iff_of_false (fun heq => ?_) (not_not_intro (holdsEscape_cons_iff.mpr (.inl hescape)))
    -- three characters have become one byte
    have hlength := congrArg List.length heq
    rw [List.length_cons, ← byteLength] at hlength
    have hrest := length_decode_le rest
    have hc := c.utf8Size_pos
    have hd := d.utf8Size_pos
    simp only [byteLength_cons] at hlength
    omega
  | case5 c d e rest hnot ih =>
    have hescape : ¬ IsEscape c d e := by
      rintro ⟨hpercent, hhigh, hlow⟩
      obtain ⟨high, hhigh⟩ := Option.isSome_iff_exists.mp hhigh
      obtain ⟨low, hlow⟩ := Option.isSome_iff_exists.mp hlow
      exact hnot high low (by simpa using hpercent) hhigh hlow
    rw [utf8Bytes_cons, List.append_cancel_left_eq, ih, holdsEscape_cons_iff, or_iff_right hescape]

/-- The texts that can be part of the path of an address as they are. -/
structure StandsForItself (cs : List Char) : Prop where
  numberSign : '#' ∉ cs
  questionMark : '?' ∉ cs
  escape : ¬ HoldsEscape cs

/-- A text without any of the three characters stands for itself. -/
theorem standsForItself_of_all (h : cs.all fun c => c != '#' && c != '?' && c != '%') :
    StandsForItself cs := by
  have hne : ∀ c ∈ cs, (c ≠ '#' ∧ c ≠ '?') ∧ c ≠ '%' := by simpa using h
  refine ⟨fun hc => (hne _ hc).1.1 rfl, fun hc => (hne _ hc).1.2 rfl, ?_⟩
  rintro ⟨before, c, d, e, after, rfl, hescape⟩
  exact (hne c (by simp)).2 hescape.percent

/-- Parts of a path stand for themselves together if each of them does. -/
theorem standsForItself_append_slash_iff :
    StandsForItself (before ++ '/' :: after) ↔ StandsForItself before ∧ StandsForItself after := by
  have hescape : HoldsEscape (before ++ '/' :: after) ↔ HoldsEscape before ∨ HoldsEscape after :=
    holdsEscape_append_cons_iff (by decide) (by decide)
  constructor
  · rintro ⟨h₁, h₂, h₃⟩
    rw [hescape, not_or] at h₃
    simp only [List.mem_append, List.mem_cons, not_or] at h₁ h₂
    exact ⟨⟨h₁.1, h₂.1, h₃.1⟩, h₁.2.2, h₂.2.2, h₃.2⟩
  · rintro ⟨⟨h₁, h₂, h₃⟩, h₁', h₂', h₃'⟩
    refine ⟨?_, ?_, fun h => (hescape.mp h).elim h₃ h₃'⟩
    · simp [h₁, h₁']
    · simp [h₂, h₂']

end Percent

/-! ### Addresses -/

/-- An address in its parts. -/
structure Address where
  scheme : List Char
  host : List Char
  /-- The bytes of the path, with encoded ones decoded. -/
  path : List UInt8
  query : Option (List Char)
  fragment : Option (List Char)
  deriving DecidableEq, Repr

namespace Address

/-- Takes what stands before the query and the fragment apart. -/
def ofPlace? (place : List Char) (query fragment : Option (List Char)) : Option Address :=
  match Chars.splitOnce ':' place with
  | some (scheme, '/' :: '/' :: rest) =>
    let host := rest.takeWhile (· != '/')
    some { scheme, host, path := Percent.decode (rest.drop host.length), query, fragment }
  | _ => none

/-- Takes an address apart. -/
def read? (cs : List Char) : Option Address :=
  let (place, query, fragment) := Url.splitTail cs
  ofPlace? place query fragment

/-- The path of a file at a reference of a repository. -/
def pathOf (owner repo reference file : String) : List Char :=
  '/' :: owner.toList ++ '/' :: repo.toList ++ '/' :: "blob".toList ++ '/' :: reference.toList ++
    '/' :: file.toList

/-- The address of a line of a file at a reference of a repository. -/
def ofLine (owner repo reference file : String) (line : UInt32) : Address where
  scheme := "https".toList
  host := "github.com".toList
  path := utf8Bytes (pathOf owner repo reference file)
  query := none
  fragment := some ("L" ++ toString line.toNat).toList

variable {place path cs fragment : List Char} {query : Option (List Char)}

/-- The query and the fragment are those that have been cut off. -/
theorem query_fragment_of_read? {a : Address} (h : read? cs = some a) :
    a.query = (Url.splitTail cs).2.1 ∧ a.fragment = (Url.splitTail cs).2.2 := by
  unfold read? ofPlace? at h
  dsimp only at h
  split at h
  · obtain rfl := Option.some.inj h
    exact ⟨rfl, rfl⟩
  · simp at h

/-- The fragment begins at the first number sign. -/
theorem splitTail_append (hplace : '#' ∉ place) (fragment : List Char) :
    Url.splitTail (place ++ '#' :: fragment) =
      match Chars.splitOnce '?' place with
      | some (path, query) => (path, some query, some fragment)
      | none => (place, none, some fragment) := by
  have hsplit := Chars.splitOnce_append_cons hplace fragment
  cases hquery : Chars.splitOnce '?' place <;> simp only [Url.splitTail, hsplit, hquery]

/-- A text without a separator is not split. -/
theorem splitOnce_of_not_mem {sep : Char} (h : sep ∉ cs) : Chars.splitOnce sep cs = none := by
  have hall : ∀ c ∈ cs, (c != sep) = true := by
    intro c hc
    have hne : c ≠ sep := fun heq => h (heq ▸ hc)
    simpa using hne
  rw [Chars.splitOnce, List.dropWhile_eq_nil_iff.mpr hall]

/-- The site that stands in front of a path. -/
def site : List Char := "https://github.com".toList

/-- The site in front of a path. -/
theorem ofPlace?_site (hpath : path.head? = some '/') (query fragment : Option (List Char)) :
    ofPlace? (site ++ path) query fragment =
      some ⟨"https".toList, "github.com".toList, Percent.decode path, query, fragment⟩ := by
  obtain ⟨rest, rfl⟩ := List.head?_eq_some_iff.mp hpath
  have hcolon : ':' ∉ "https".toList := by decide
  have hscheme : Chars.splitOnce ':' (site ++ '/' :: rest) =
      some ("https".toList, '/' :: '/' :: ("github.com".toList ++ '/' :: rest)) :=
    Chars.splitOnce_append_cons hcolon ("//github.com".toList ++ '/' :: rest)
  have hhost : ("github.com".toList ++ '/' :: rest).takeWhile (· != '/') = "github.com".toList :=
    rfl
  rw [ofPlace?, hscheme]
  simp only [hhost]
  rfl

/-- The site holds neither of the signs that end a path. -/
theorem not_mem_site : '#' ∉ site ∧ '?' ∉ site := by decide

/-- The fragment begins at the first number sign, so that none stands in the path if it is whole. -/
theorem numberSign_not_mem_of_read? {a : Address}
    (h : read? (site ++ path ++ '#' :: fragment) = some a) (hwhole : a.fragment = some fragment) :
    '#' ∉ path := by
  intro hnumber
  obtain ⟨before, after, rfl, hbefore⟩ := List.eq_append_cons_of_mem hnumber
  have hplace : '#' ∉ site ++ before := by simp [not_mem_site.1, hbefore]
  have hcs : site ++ (before ++ '#' :: after) ++ '#' :: fragment =
      site ++ before ++ '#' :: (after ++ '#' :: fragment) := by simp
  have hcut := (query_fragment_of_read? h).2
  rw [hcs, splitTail_append hplace, hwhole] at hcut
  have heq : fragment = after ++ '#' :: fragment := by
    revert hcut
    split <;> exact Option.some.inj
  have hlength := congrArg List.length heq
  simp only [List.length_append, List.length_cons] at hlength
  omega

/-- A question mark in the path begins a query. -/
theorem questionMark_not_mem_of_read? {a : Address} (hnumber : '#' ∉ path)
    (h : read? (site ++ path ++ '#' :: fragment) = some a) (hnone : a.query = none) :
    '?' ∉ path := by
  intro hquestion
  have hplace : '#' ∉ site ++ path := by simp [not_mem_site.1, hnumber]
  obtain ⟨before, after, rfl, hbefore⟩ := List.eq_append_cons_of_mem hquestion
  have hsplit : Chars.splitOnce '?' (site ++ (before ++ '?' :: after)) =
      some (site ++ before, after) := by
    rw [← List.append_assoc]
    exact Chars.splitOnce_append_cons (by simp [not_mem_site.2, hbefore]) after
  have hcut := (query_fragment_of_read? h).1
  rw [splitTail_append hplace, hsplit, hnone] at hcut
  simp at hcut

/-- Without the two signs in the path, its encoded bytes are all that is decoded. -/
theorem read?_of_not_mem (hpath : path.head? = some '/') (hnumber : '#' ∉ path)
    (hquestion : '?' ∉ path) (fragment : List Char) :
    read? (site ++ path ++ '#' :: fragment) =
      some ⟨"https".toList, "github.com".toList, Percent.decode path, none, some fragment⟩ := by
  have hplace : '#' ∉ site ++ path := by simp [not_mem_site.1, hnumber]
  have hsplit : Chars.splitOnce '?' (site ++ path) = none :=
    splitOnce_of_not_mem (by simp [not_mem_site.2, hquestion])
  rw [read?, splitTail_append hplace, hsplit]
  exact ofPlace?_site hpath none (some fragment)

/-- An address is taken apart into its parts exactly if the path stands for itself. -/
theorem read?_eq_some_iff (hpath : path.head? = some '/') (fragment : List Char) :
    read? (site ++ path ++ '#' :: fragment) =
        some ⟨"https".toList, "github.com".toList, utf8Bytes path, none, some fragment⟩ ↔
      Percent.StandsForItself path := by
  constructor
  · intro h
    have hnumber := numberSign_not_mem_of_read? h rfl
    have hquestion := questionMark_not_mem_of_read? hnumber h rfl
    rw [read?_of_not_mem hpath hnumber hquestion, Option.some.injEq] at h
    exact ⟨hnumber, hquestion, Percent.decode_eq_utf8Bytes_iff.mp (congrArg Address.path h)⟩
  · rintro ⟨hnumber, hquestion, hescape⟩
    rw [read?_of_not_mem hpath hnumber hquestion, Percent.decode_eq_utf8Bytes_iff.mpr hescape]

/-- The path of a file stands for itself just when the reference and the file do. -/
theorem standsForItself_pathOf_iff {owner repo : String}
    (howner : Percent.StandsForItself owner.toList) (hrepo : Percent.StandsForItself repo.toList)
    (reference file : String) :
    Percent.StandsForItself (pathOf owner repo reference file) ↔
      Percent.StandsForItself reference.toList ∧ Percent.StandsForItself file.toList := by
  have hblob : Percent.StandsForItself "blob".toList :=
    Percent.standsForItself_of_all rfl
  have hnil : Percent.StandsForItself [] := Percent.standsForItself_of_all rfl
  have hfront : Percent.StandsForItself ('/' :: owner.toList) :=
    Percent.standsForItself_append_slash_iff.mpr ⟨hnil, howner⟩
  simp only [pathOf, Percent.standsForItself_append_slash_iff, hfront, hrepo, hblob, true_and]

end Address

/-! ### Links -/

namespace GitHubSettings

variable {s : GitHubSettings} {owner repo : String}

/-- A tracker with an owner and a repository that are not blank has a repository. -/
theorem repository_eq_ok (howner : s.owner = some owner) (hrepo : s.repo = some repo)
    (hblank : isBlank owner = false ∧ isBlank repo = false) :
    s.repository = .ok (owner, repo) := by
  simp only [repository, howner, hrepo]
  simp only [hblank, Bool.or_self, Bool.false_eq_true, if_false]

/-- The address of a line is its path behind the site. -/
theorem blobUrl_eq_ok (h : s.repository = .ok (owner, repo)) (reference file : String)
    (line : UInt32) :
    ∃ url, s.blobUrl reference file line = .ok url ∧
      url.toList = Address.site ++ Address.pathOf owner repo reference file ++
        '#' :: ("L" ++ toString line.toNat).toList := by
  refine ⟨"https://github.com/" ++ owner ++ "/" ++ repo ++ "/blob/" ++ reference ++ "/" ++ file ++
    "#L" ++ toString line.toNat, by simp only [blobUrl, h, Except.map], ?_⟩
  have hfront : "https://github.com/".toList = Address.site ++ ['/'] := by decide
  have hblob : "/blob/".toList = '/' :: "blob".toList ++ ['/'] := by decide
  have hslash : "/".toList = ['/'] := by decide
  have hmark : "#L".toList = '#' :: "L".toList := by decide
  simp only [String.toList_append, hfront, hblob, hslash, hmark, Address.pathOf, List.append_assoc,
    List.cons_append, List.nil_append]

/-- An address leads to its line exactly if the reference and the file stand for themselves. -/
theorem read?_blobUrl_iff (howner : s.owner = some owner) (hrepo : s.repo = some repo)
    (hblank : isBlank owner = false ∧ isBlank repo = false)
    (hplain : Percent.StandsForItself owner.toList ∧ Percent.StandsForItself repo.toList)
    (reference file : String) (line : UInt32) :
    ∃ url, s.blobUrl reference file line = .ok url ∧
      (Address.read? url.toList = some (.ofLine owner repo reference file line) ↔
        Percent.StandsForItself reference.toList ∧ Percent.StandsForItself file.toList) := by
  have hrepository := repository_eq_ok howner hrepo hblank
  obtain ⟨url, hurl, hchars⟩ := blobUrl_eq_ok hrepository reference file line
  refine ⟨url, hurl, ?_⟩
  rw [hchars, ← Address.standsForItself_pathOf_iff hplain.1 hplain.2]
  exact Address.read?_eq_some_iff rfl _

end GitHubSettings

namespace GitHubTracker

/-- Both kinds of links are given for every file and line, and each of them leads to its line on the
branch, or at the commit, exactly if neither the reference nor the file holds a `#`, a `?` or a `%`
with two hexadecimal digits behind it. Of the owner and the repository it is enough that they stand
for themselves, as names of letters, digits, `-`, `_` and `.` do. -/
theorem read?_links_iff {σ : Type} [Transport σ] (t : GitHubTracker σ) {owner repo : String}
    (howner : t.settings.owner = some owner) (hrepo : t.settings.repo = some repo)
    (hblank : isBlank owner = false ∧ isBlank repo = false)
    (hplain : Percent.StandsForItself owner.toList ∧ Percent.StandsForItself repo.toList)
    (file : String) (line : UInt32) :
    ∃ remote permanent, IssueTracker.remoteUrl t file line = .ok remote ∧
      IssueTracker.permalink t file line = .ok permanent ∧
      (Address.read? remote.toList =
          some (.ofLine owner repo t.references.branchName file line) ↔
        Percent.StandsForItself t.references.branchName.toList ∧
          Percent.StandsForItself file.toList) ∧
      (Address.read? permanent.toList =
          some (.ofLine owner repo t.references.commitName file line) ↔
        Percent.StandsForItself t.references.commitName.toList ∧
          Percent.StandsForItself file.toList) := by
  obtain ⟨remote, hremote, hreads⟩ :=
    GitHubSettings.read?_blobUrl_iff howner hrepo hblank hplain t.references.branchName file line
  obtain ⟨permanent, hpermanent, hreads'⟩ :=
    GitHubSettings.read?_blobUrl_iff howner hrepo hblank hplain t.references.commitName file line
  exact ⟨remote, permanent, hremote, hpermanent, hreads, hreads'⟩

/-- A tracker of a repository on a branch with a slash in its name. -/
def onBranch : GitHubTracker NoNetwork where
  settings :=
    { owner := some "acme", repo := some "shop", token := none
      apiUrl := GitHubSettings.defaultApiUrl }
  references := { branch := some "feature/x", commit := some "0f3c2a1" }
  transport := .noNetwork

/-- Both links to a line on this branch lead there. -/
theorem read?_links_onBranch :
    ∃ remote permanent, IssueTracker.remoteUrl onBranch "src/user.ts" 42 = .ok remote ∧
      IssueTracker.permalink onBranch "src/user.ts" 42 = .ok permanent ∧
      Address.read? remote.toList = some (.ofLine "acme" "shop" "feature/x" "src/user.ts" 42) ∧
      Address.read? permanent.toList = some (.ofLine "acme" "shop" "0f3c2a1" "src/user.ts" 42) := by
  have hacme : Percent.StandsForItself "acme".toList :=
    Percent.standsForItself_of_all rfl
  have hshop : Percent.StandsForItself "shop".toList :=
    Percent.standsForItself_of_all rfl
  have hbranch : Percent.StandsForItself "feature/x".toList :=
    Percent.standsForItself_of_all rfl
  have hcommit : Percent.StandsForItself "0f3c2a1".toList :=
    Percent.standsForItself_of_all rfl
  have hfile : Percent.StandsForItself "src/user.ts".toList :=
    Percent.standsForItself_of_all rfl
  obtain ⟨remote, permanent, hremote, hpermanent, hreads, hreads'⟩ :=
    read?_links_iff onBranch rfl rfl (by decide) ⟨hacme, hshop⟩ "src/user.ts" 42
  exact ⟨remote, permanent, hremote, hpermanent, hreads.mpr ⟨hbranch, hfile⟩,
    hreads'.mpr ⟨hcommit, hfile⟩⟩

/-- A link to a file in a directory `c#` leads to a file `c`. -/
theorem read?_link_numberSign :
    ∃ remote, IssueTracker.remoteUrl onBranch "c#/a.ts" 3 = .ok remote ∧
      Address.read? remote.toList =
        some ⟨"https".toList, "github.com".toList, utf8Bytes "/acme/shop/blob/feature/x/c".toList,
          none, some "/a.ts#L3".toList⟩ ∧
      Address.read? remote.toList ≠ some (.ofLine "acme" "shop" "feature/x" "c#/a.ts" 3) := by
  exact ⟨"https://github.com/acme/shop/blob/feature/x/c#/a.ts#L3", by decide, by decide, by decide⟩

end GitHubTracker

end TrackedComments

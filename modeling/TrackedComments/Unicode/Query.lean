import TrackedComments.Text.Space
import TrackedComments.Unicode.Category
import TrackedComments.Unicode.Script
import TrackedComments.Unicode.ScriptExtensions
import TrackedComments.Unicode.Binary

/-!
# Looking up character properties by name

A property is asked for by a bare name (`L`, `Greek`, `Alphabetic`) or by a property and a value
(`script=Greek`). Names are compared loosely. A bare name is a binary property first, then a general
category, then a script.
-/

namespace TrackedComments.Unicode

/-- The groups of general categories, with the short names of their members. -/
def categoryGroups : List (List String × List String) :=
  [ (["L", "Letter"], ["Lu", "Ll", "Lt", "Lm", "Lo"]),
    (["LC", "Cased_Letter"], ["Lu", "Ll", "Lt"]),
    (["M", "Mark", "Combining_Mark"], ["Mn", "Mc", "Me"]),
    (["N", "Number"], ["Nd", "Nl", "No"]),
    (["P", "Punctuation", "punct"], ["Pc", "Pd", "Ps", "Pe", "Pi", "Pf", "Po"]),
    (["S", "Symbol"], ["Sm", "Sc", "Sk", "So"]),
    (["Z", "Separator"], ["Zs", "Zl", "Zp"]) ]

/-- The code points with an assigned general category. -/
def assigned : CharSet :=
  .unions (categories.map Property.toCharSet)

/-- The code points of the general categories with these short names. -/
def categoriesNamed (names : List String) : CharSet :=
  .unions (categories.filterMap fun p =>
    if p.names.any names.contains then some p.toCharSet else none)

/-- Surrogate code points, which no character has. -/
def surrogates : CharSet := .range 0xd800 0xdfff

/-- The code points without an assigned general category. -/
def unassigned : CharSet := assigned.compl.diff surrogates

/-- Whether two names are the same when compared loosely. -/
def isSameName (name : List Char) (known : String) : Bool :=
  looseName known.toList == looseName name

/-- A general category, a group of them, or one of the three sets that are asked for in their
place. -/
def category? (name : List Char) : Option CharSet :=
  if isSameName name "Any" then some .univ
  else if isSameName name "ASCII" then some (.range 0 0x7f)
  else if isSameName name "Assigned" then some assigned
  else if ["Cn", "Unassigned"].any (isSameName name) then some unassigned
  else if ["C", "Other"].any (isSameName name) then
    some ((categoriesNamed ["Cc", "Cf", "Co"]).union unassigned)
  else match categoryGroups.find? fun group => group.1.any (isSameName name) with
    | some group => some (categoriesNamed group.2)
    | none =>
      if isSameName name "cntrl" then some (categoriesNamed ["Cc"])
      else if isSameName name "digit" then some (categoriesNamed ["Nd"])
      else (Property.find? categories name).map Property.toCharSet

/-- A script. -/
def script? (name : List Char) : Option CharSet :=
  (Property.find? scripts name).map Property.toCharSet

/-- The extended use of a script. -/
def scriptExtension? (name : List Char) : Option CharSet :=
  ((Property.find? scriptExtensions name).map Property.toCharSet).or (script? name)

/-- What can start an identifier. -/
def identifierStart : CharSet :=
  ((categoriesNamed ["Lu", "Ll", "Lt", "Lm", "Lo", "Nl"]).union
      (.ofTable ["1885-1886 2118 212e 309b-309c"])).diff
    (((Property.find? binaryProperties "Pattern_Syntax".toList).elim .empty
        Property.toCharSet).union
      ((Property.find? binaryProperties "Pattern_White_Space".toList).elim .empty
        Property.toCharSet))

/-- What can stand in an identifier. -/
def identifierContinue : CharSet :=
  .unions [identifierStart, categoriesNamed ["Mn", "Mc", "Nd", "Pc"],
    .ofTable ["b7 387 1369-1371 19da 200c-200d 30fb ff65"]]

/-- What keeps identifiers from being closed under compatibility normalisation. -/
def normalisationExceptions : CharSet :=
  .ofTable ["37a 309b-309c fc5e-fc63 fdfa-fdfb fe70 fe72 fe74 fe76 fe78 fe7a fe7c fe7e"]

/-- A binary property. -/
def binary? (name : List Char) : Option CharSet :=
  if ["IDS", "ID_Start"].any (isSameName name) then some identifierStart
  else if ["IDC", "ID_Continue"].any (isSameName name) then some identifierContinue
  else if ["XIDS", "XID_Start"].any (isSameName name) then
    some ((identifierStart.diff normalisationExceptions).diff (.ofTable ["e33 eb3 ff9e-ff9f"]))
  else if ["XIDC", "XID_Continue"].any (isSameName name) then
    some (identifierContinue.diff normalisationExceptions)
  else (Property.find? binaryProperties name).map Property.toCharSet

/-- The set that a bare name asks for. The short names `Cf`, `Sc` and `LC` mean categories, although
binary or other properties go by them too. -/
def lookup? (name : List Char) : Option CharSet :=
  if ["Cf", "Sc", "LC"].any (isSameName name) then category? name
  else (binary? name).or ((category? name).or (script? name))

/-- The set that a property and a value ask for. -/
def lookupValue? (property value : List Char) : Option CharSet :=
  if ["gc", "General_Category"].any (isSameName property) then category? value
  else if ["sc", "Script"].any (isSameName property) then script? value
  else if ["scx", "Script_Extensions"].any (isSameName property) then scriptExtension? value
  else none

/-- Letters, marks, decimal digits, connectors and joiners: what words are made of. -/
def word : CharSet :=
  .unions [(Property.find? binaryProperties "Alphabetic".toList).elim .empty Property.toCharSet,
    categoriesNamed ["Mn", "Mc", "Me", "Nd", "Pc"], .range 0x200c 0x200d]

/-- The decimal digits of all scripts. -/
def digit : CharSet :=
  categoriesNamed ["Nd"]

/-- The white space that `isSpace` recognises, as a set. -/
def space : CharSet :=
  ⟨[(0x9, 0xd), (0x20, 0x20), (0x85, 0x85), (0xa0, 0xa0), (0x1680, 0x1680), (0x2000, 0x200a),
    (0x2028, 0x2029), (0x202f, 0x202f), (0x205f, 0x205f), (0x3000, 0x3000)]⟩

/-- The set of white space holds exactly the blanks. -/
theorem contains_space (c : Char) : space.contains c = isSpace c := by
  rw [Bool.eq_iff_iff]
  simp only [CharSet.contains, space, CharSet.inRanges_cons, CharSet.inRanges_nil, isSpace,
    Bool.or_eq_true, Bool.and_eq_true, decide_eq_true_eq, beq_iff_eq, Bool.false_eq_true, or_false]
  omega

end TrackedComments.Unicode

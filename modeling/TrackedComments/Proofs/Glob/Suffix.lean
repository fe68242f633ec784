import TrackedComments.Proofs.Glob.Language
import TrackedComments.Source.Filter

/-!
# Globs for endings

The glob that stands for any number of bytes, followed by the bytes of a text, accepts the paths
that end in the text.

## Main results

* `Glob.accepts_ending`: an asterisk and some bytes accept the paths that end in the bytes.
* `FileFilter.accepts_endingIn`: the files that pass a filter for an ending.
-/

namespace TrackedComments

namespace Glob

/-- The glob of an asterisk and some bytes. -/
def ending (bytes : List UInt8) : Glob :=
  sequence (.token .star :: bytes.map fun b => .token (.byte b))

/-- A glob for an ending accepts the paths that end so. -/
theorem accepts_ending {bytes path : List UInt8} :
    (ending bytes).accepts false path ↔ bytes <:+ path := by
  rw [accepts_iff_matches, ending, matches_sequence_cons]
  simp only [matches_bytes, Matches, GlobToken.Matches]
  constructor
  · rintro ⟨before, _, rfl, -, rfl⟩
    exact List.suffix_append before _
  · rintro ⟨before, rfl⟩
    exact ⟨before, bytes, rfl, by simp, rfl⟩

end Glob

/-- The filter for files whose paths end in a text. -/
def FileFilter.endingIn (suffix : String) : FileFilter :=
  ⟨some ⟨.ending (utf8Bytes suffix.toList), false, false⟩, none⟩

/-- The files that pass a filter for an ending. -/
theorem FileFilter.accepts_endingIn {suffix path : String} :
    (FileFilter.endingIn suffix).accepts path ↔
      utf8Bytes suffix.toList <:+ utf8Bytes path.toList := by
  simp [endingIn, accepts, PathGlob.isMatch, Glob.accepts_ending]

example : FileFilter.ofGlobs "*.ts" "" = .ok (.endingIn ".ts") := by rfl

end TrackedComments

import TrackedComments.FileTree.Basic

/-!
# Text files

Reading a file as text, which its bytes have to be the UTF-8 form of, and writing text.

## Main results

* `fromUTF8?_toUTF8`: the bytes of a text read as that text.
-/

namespace TrackedComments

/-- Why a file could not be read as text. -/
inductive ReadFault where
  | os (error : OsError)
  | notText
  deriving DecidableEq, Repr, Inhabited

/-- The fault in words. -/
def ReadFault.message : ReadFault → String
  | os error => error.message
  | notText => "stream did not contain valid UTF-8"

/-- The text of the file that a path leads to. -/
def FileTree.readText (t : FileTree) (path : List Char) : Except ReadFault String :=
  match t.read path with
  | .error e => .error (.os e)
  | .ok content =>
    match String.fromUTF8? content with
    | none => .error .notText
    | some text => .ok text

/-- Makes a path lead to a file with a text. -/
def FileTree.writeText (t : FileTree) (path : List Char) (text : String) :
    Except OsError FileTree :=
  t.write path text.toUTF8

/-- The bytes of a text read as that text. -/
theorem fromUTF8?_toUTF8 (s : String) : String.fromUTF8? s.toUTF8 = some s := by
  simp [String.fromUTF8?, String.toUTF8, String.fromUTF8, s.isValidUTF8]

end TrackedComments

import TrackedComments.Error
import TrackedComments.Glob.PathGlob

/-!
# File filters

Which files of a workspace are looked at: those whose path matches the glob to include and not the
glob to exclude. A blank glob matches nothing.
-/

namespace TrackedComments

/-- A pair of globs that decides which files are looked at. -/
structure FileFilter where
  included : Option PathGlob
  excluded : Option PathGlob
  deriving Inhabited

namespace FileFilter

/-- The extensions of source files. -/
def defaultInclude : String := "**/*.\x7bts,js,tsx,jsx,py,java,cs,cpp,c,go,rb,php,rs\x7d"

/-- The directories of dependencies and build results. -/
def defaultExclude : String := "**/\x7bnode_modules,target,vendor,.git\x7d/**"

/-- Reads the glob of a setting. -/
def readGlob (field glob : String) : Except Error (Option PathGlob) :=
  let trimmed := Chars.trim glob.toList
  if trimmed.isEmpty then .ok none
  else match PathGlob.ofChars false false trimmed with
    | .ok g => .ok (some g)
    | .error fault =>
      .error (.invalidConfig field
        ("error parsing glob '" ++ String.ofList trimmed ++ "': " ++ fault.message))

/-- The filter for a pair of globs. -/
def ofGlobs (include_ exclude : String) : Except Error FileFilter := do
  let included ← readGlob "include" include_
  let excluded ← readGlob "exclude" exclude
  .ok ⟨included, excluded⟩

/-- The filter that is used unless another one is configured. -/
def standard : FileFilter :=
  (ofGlobs defaultInclude defaultExclude).toOption.getD ⟨none, none⟩

/-- Whether a path passes the filter. -/
def accepts (f : FileFilter) (path : String) : Bool :=
  let bytes := utf8Bytes path.toList
  f.included.any (·.isMatch bytes) && !f.excluded.any (·.isMatch bytes)

end FileFilter

end TrackedComments

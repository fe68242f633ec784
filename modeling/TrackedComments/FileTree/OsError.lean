/-!
# Failures of file operations

What can go wrong when a file is opened, created, moved or removed, with the wording of the
operating system.
-/

namespace TrackedComments

/-- A failure that the operating system reports. -/
inductive OsError where
  | notFound
  | alreadyExists
  | notDirectory
  | isDirectory
  | nameTooLong
  | nulInName
  deriving DecidableEq, Repr, Inhabited

/-- The failure in words. -/
def OsError.message : OsError → String
  | notFound => "No such file or directory (os error 2)"
  | alreadyExists => "File exists (os error 17)"
  | notDirectory => "Not a directory (os error 20)"
  | isDirectory => "Is a directory (os error 21)"
  | nameTooLong => "File name too long (os error 36)"
  | nulInName => "file name contained an unexpected NUL byte"

end TrackedComments

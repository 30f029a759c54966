/-!
# Why a file cannot be used

The causes that the file system gives, with its wording and number for each.
-/

set_option autoImplicit false

namespace BundleHardening

/-- Why a file or a directory cannot be used. -/
inductive FileError where
  | notFound
  | alreadyThere
  | notADirectory
  | isADirectory
  | nameTooLong
  | notAllowed
  | nulInName
  | notText
  | noWholeTree
  | other (wording : String)
  deriving DecidableEq, Repr

/-- The wording of the error. -/
def FileError.message : FileError → String
  | notFound => "No such file or directory (os error 2)"
  | alreadyThere => "File exists (os error 17)"
  | notADirectory => "Not a directory (os error 20)"
  | isADirectory => "Is a directory (os error 21)"
  | nameTooLong => "File name too long (os error 36)"
  | notAllowed => "Permission denied (os error 13)"
  | nulInName => "file name contained an unexpected NUL byte"
  | notText => "stream did not contain valid UTF-8"
  | noWholeTree => "failed to create whole tree"
  | other wording => wording

end BundleHardening

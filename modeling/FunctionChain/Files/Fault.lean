import FunctionChain.Text.Bytes

/-!
# Failed file operations

A file operation that fails reports the call, the path it was given and the reason.
-/

namespace FunctionChain

namespace Files

/-- Why the system refused an operation. -/
inductive Reason where
  | notFound
  | notDirectory
  | isDirectory
  | alreadyExists
  | notEmpty
  | nameTooLong
  | invalidArgument
  | permissionDenied
  | tooManyLinks
  /-- A pattern for temporary names that holds a slash. -/
  | patternHasSlash
deriving Repr, DecidableEq

/-- The system's words for a reason. -/
def Reason.describe : Reason → Bytes
  | .notFound => bytes "no such file or directory"
  | .notDirectory => bytes "not a directory"
  | .isDirectory => bytes "is a directory"
  | .alreadyExists => bytes "file exists"
  | .notEmpty => bytes "directory not empty"
  | .nameTooLong => bytes "file name too long"
  | .invalidArgument => bytes "invalid argument"
  | .permissionDenied => bytes "permission denied"
  | .tooManyLinks => bytes "too many levels of symbolic links"
  | .patternHasSlash => bytes "pattern contains path separator"

/-- A file operation that failed: the call, the paths it was given, and the reason. -/
structure Fault where
  call : Bytes
  paths : List Bytes
  reason : Reason
deriving Repr, DecidableEq

/-- The message of a failed operation. -/
def Fault.message (fault : Fault) : Bytes :=
  Bytes.joined (bytes " ") (fault.call :: fault.paths) ++ bytes ": " ++ fault.reason.describe

end Files

end FunctionChain

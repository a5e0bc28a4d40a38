/-!
# Failures of file operations

The causes for which the operating system refuses an operation, with their
numbers and wordings, and the failures of reading a file as text.
-/

namespace MemoryKeeper

/-- Why the operating system refused an operation on a file or directory, or to start a process. -/
inductive OsError where
  | noEntry
  | argumentsTooLong
  | permissionDenied
  | alreadyExists
  | notADirectory
  | isADirectory
  | nameTooLong
  deriving DecidableEq, Repr

namespace OsError

def number : OsError → Nat
  | .noEntry => 2
  | .argumentsTooLong => 7
  | .permissionDenied => 13
  | .alreadyExists => 17
  | .notADirectory => 20
  | .isADirectory => 21
  | .nameTooLong => 36

/-- What the system says of a cause. -/
def explanation : OsError → String
  | .noEntry => "No such file or directory"
  | .argumentsTooLong => "Argument list too long"
  | .permissionDenied => "Permission denied"
  | .alreadyExists => "File exists"
  | .notADirectory => "Not a directory"
  | .isADirectory => "Is a directory"
  | .nameTooLong => "File name too long"

/-- The wording of a cause with its number. -/
def message (error : OsError) : String :=
  error.explanation ++ " (os error " ++ Nat.repr error.number ++ ")"

end OsError

/-- Why a file could not be read or written. -/
inductive IoFailure where
  | os (error : OsError)
  /-- The file is not well-formed UTF-8. -/
  | invalidText
  /-- A failure that is known by its wording only. -/
  | reported (message : String)
  deriving DecidableEq, Repr

def IoFailure.message : IoFailure → String
  | .os error => error.message
  | .invalidText => "stream did not contain valid UTF-8"
  | .reported message => message

end MemoryKeeper

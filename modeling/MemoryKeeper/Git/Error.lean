import MemoryKeeper.Git.Reference
import MemoryKeeper.Git.State

/-!
# Git errors

What can go wrong between this program and git: there is no usable repository,
an operation is paused, the git program does not start or ends with a status
that was not expected, or the current commit cannot be read.
-/

namespace MemoryKeeper

/-- Why git was of no use. -/
inductive GitError where
  | notARepository (path : String)
  | bareRepository
  | operationInProgress (state : Git.State)
  /-- The program could not be started. -/
  | spawn (command complaint : String)
  /-- The program ended with a status that was not accepted; it has no code if it was killed. -/
  | commandFailed (command complaint : String) (code : Option Int)
  | invalidObjectId (complaint : String)
  | internal (complaint : String)
  deriving DecidableEq, Repr

def GitError.message : GitError → String
  | .notARepository path => "not a git repository: " ++ path
  | .bareRepository => "bare repository not supported"
  | .operationInProgress state => state.name ++ " in progress"
  | .spawn command complaint => "failed to run '" ++ command ++ "': " ++ complaint
  | .commandFailed command complaint _ => "'" ++ command ++ "' failed: " ++ complaint
  | .invalidObjectId complaint => "invalid object id: " ++ complaint
  | .internal complaint => "git error: " ++ complaint

/-- The commit that a branch points at, if there is one. -/
def Git.Head.commit? : Git.Head → Except GitError (Option ObjectId)
  | .unborn => .ok none
  | .commit identifier => .ok (some identifier)
  | .unreadable complaint => .error (.internal complaint)

end MemoryKeeper

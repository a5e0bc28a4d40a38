import MemoryKeeper.Memory.Storage
import MemoryKeeper.World.Program

/-!
# The lock of a repository

Whoever changes memories holds the repository's lock from the first check to the
commit. A lock that another one holds is refused at once; nobody waits. All work
trees of a repository share one lock, whose file stays when it is released.
-/

namespace MemoryKeeper

/-- Why a lock could not be made or taken, beyond its being held. -/
inductive LockObstacle where
  /-- The directory of the lock cannot be made. -/
  | directory (path : String) (error : OsError)
  /-- The file of the lock cannot be opened. -/
  | file (path : String) (error : OsError)
  /-- An obstacle that is known by its wording only. -/
  | reported (message : String)
  deriving DecidableEq, Repr

def LockObstacle.message : LockObstacle → String
  | .directory path error => "cannot create " ++ path ++ ": " ++ error.message
  | .file path error => "cannot open " ++ path ++ ": " ++ error.message
  | .reported message => message

/-- Why a lock was refused. -/
inductive LockError where
  | alreadyLocked
  | creationFailed (obstacle : LockObstacle)
  | acquisitionFailed (obstacle : LockObstacle)
  deriving DecidableEq, Repr

def LockError.message : LockError → String
  | .alreadyLocked => "repository is locked by another gitmem process"
  | .creationFailed obstacle => "failed to create lock: " ++ obstacle.message
  | .acquisitionFailed obstacle => "failed to acquire lock: " ++ obstacle.message

namespace Storage

def lockPlace (storage : Storage) : Path.Location :=
  Path.location storage.lockPath

/-- Takes the lock, making its file and directory if need be. -/
def lock (storage : Storage) : Task LockError Unit := do
  let directory := storage.privateDirectory
  (Task.change (.createDirectories (Path.location directory))).mapFailure
    fun error => .creationFailed (.directory directory error)
  let free ← (Task.acquire storage.lockPlace).mapFailure
    fun error => .creationFailed (.file storage.lockPath error)
  if !free then throw .alreadyLocked

/-- Gives the lock back. -/
def unlock {Failure : Type} (storage : Storage) : Task Failure Unit :=
  .release storage.lockPlace

end Storage

end MemoryKeeper

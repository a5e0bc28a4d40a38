import MemoryKeeper.Command.Error
import MemoryKeeper.Config.Settings
import MemoryKeeper.Git.Error
import MemoryKeeper.Memory.Lock
import MemoryKeeper.Memory.Store
import MemoryKeeper.Text.Lines

/-!
# Execution errors

What can go wrong when a command is executed, and what is reported of it. A
report tells the caller what to do next where that is known.
-/

namespace MemoryKeeper

/-- Why a command could not be executed. -/
inductive ExecutionError where
  | git (error : GitError)
  | store (error : StoreError)
  | lock (error : LockError)
  | config (error : ConfigError)
  /-- A reference that must name a memory does not. -/
  | notAMemory (reference : String)
  /-- A revision would be read as an option. -/
  | optionLikeRevision (revision : String)
  deriving DecidableEq, Repr

namespace ExecutionError

def message : ExecutionError → String
  | .git error => error.message
  | .store error => error.message
  | .lock error => error.message
  | .config error => error.message
  | .notAMemory reference => "no memory matches '" ++ reference ++ "'"
  | .optionLikeRevision revision => "revision '" ++ revision ++ "' cannot start with '-'"

/-- What to do about well-known complaints of git. -/
def adviceOn (complaint : String) : Option String :=
  let complains (part : String) : Bool := Text.holds part.toList complaint.toList
  if complains "does not have any commits yet" then
    some "Create a memory first: (create 💡 \"my-insight\" \"What I learned today\")"
  else if complains "unknown revision" || complains "bad revision" then
    some "Check the revision; (history \"memories/\" 5) lists recent commits"
  else if complains "Please tell me who you are" then
    some "Set user.name and user.email, or author_name and author_email in the gitmem repo config"
  else none

/-- The command that is named when no repository can be used. -/
def discoveryCommand : String := "git rev-parse --show-toplevel"

/-- The report of an error of git. -/
def ofGit : GitError → CommandError
  | .commandFailed command complaint _ => .git command complaint (adviceOn complaint)
  | .spawn command complaint =>
    .git command complaint (some "Install git or set git_binary in the gitmem config")
  | .notARepository path =>
    .git discoveryCommand (GitError.notARepository path).message
      (some "Run gitmem inside a git work tree or pass --cwd <repo>")
  | .bareRepository =>
    .git discoveryCommand GitError.bareRepository.message
      (some "Use a clone with a working tree")
  | .operationInProgress state =>
    .git "git status" (GitError.operationInProgress state).message
      (some ("Finish or abort the " ++ state.name ++ " before changing memories"))
  | .invalidObjectId complaint => .git "git" (GitError.invalidObjectId complaint).message none
  | .internal complaint => .git "git" (GitError.internal complaint).message none

/-- What to do about an error that is not one of git. -/
def advice : ExecutionError → Option String
  | .git _ => none
  | .store (.alreadyExists slug _) => some ("(update \"" ++ slug ++ "\" \"New content\")")
  | .store _ => none
  | .lock .alreadyLocked => some "Retry once the other gitmem command has finished"
  | .lock _ => none
  | .config _ => some "Fix or remove the offending config.toml"
  | .notAMemory _ => some "(list) shows every memory and its slug"
  | .optionLikeRevision _ => some "(diff \"HEAD~1\" \"HEAD\")"

def toCommandError : ExecutionError → CommandError
  | .git error => ofGit error
  | error => .memory error.message error.advice

end ExecutionError

end MemoryKeeper

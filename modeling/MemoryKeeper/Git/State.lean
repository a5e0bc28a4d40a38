import MemoryKeeper.Files.Tree

/-!
# Paused operations

A rebase, a merge and the like leave files in a git directory while they are
paused. A repository is in the state of the first operation whose files are
there; without any it is clean.
-/

namespace MemoryKeeper.Git

open MemoryKeeper.Path (Location)

/-- What a repository is in the middle of. -/
inductive State where
  | clean
  | rebase
  | merge
  | cherryPick
  | revert
  | bisect
  | applyMailbox
  deriving DecidableEq, Repr

namespace State

def name : State → String
  | .clean => "clean"
  | .rebase => "rebase"
  | .merge => "merge"
  | .cherryPick => "cherry-pick"
  | .revert => "revert"
  | .bisect => "bisect"
  | .applyMailbox => "apply-mailbox"

def all : List State :=
  [.clean, .rebase, .merge, .cherryPick, .revert, .bisect, .applyMailbox]

def ofName? (text : String) : Option State :=
  all.find? (·.name = text)

/-- Whether an operation is paused. -/
def isInProgress (state : State) : Bool :=
  state ≠ .clean

/-- The state that the files of a git directory show. -/
def ofFiles (tree : FileTree) (directory : Location) : State :=
  let hasFile (names : Location) : Bool := tree.isFile (directory ++ names)
  let hasDirectory (names : Location) : Bool := tree.isDirectory (directory ++ names)
  if hasDirectory ["rebase-merge"] then .rebase
  else if hasFile ["rebase-apply", "rebasing"] then .rebase
  else if hasDirectory ["rebase-apply"] then .applyMailbox
  else if hasFile ["MERGE_HEAD"] then .merge
  else if hasFile ["REVERT_HEAD"] then .revert
  else if hasFile ["CHERRY_PICK_HEAD"] then .cherryPick
  else if hasFile ["BISECT_LOG"] then .bisect
  else .clean

end State

end MemoryKeeper.Git

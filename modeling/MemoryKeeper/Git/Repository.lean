import MemoryKeeper.Git.Configuration
import MemoryKeeper.Git.Error
import MemoryKeeper.Git.ReferenceStore
import MemoryKeeper.Git.State

/-!
# Repositories

A repository is found by looking upwards from a file or directory. At each place
an entry `.git` is looked at first and then the place itself. An entry that is a
file must link to a git directory, and a directory whose common directory is not
there is of no use; either ends the search. The root is looked at only if the
search begins there.

The repository is then opened at the git directory that was found, where an entry
`.git` comes first again. A git directory with a file `gitdir` and a common
directory apart is that of a linked work tree, and the file names the entry that
leads to it. The work tree of any other git directory is the one that its
configuration names, or else the directory around the entry at which it was
opened. A repository whose configuration says so has no work tree; a
configuration that cannot be read makes a repository unusable.

The directories of a repository are written with a slash at the end.
-/

namespace MemoryKeeper.Git

open MemoryKeeper.Path (Location)

/-- A repository with a work tree. -/
structure Repository where
  /-- Where the references of the work tree are. -/
  store : ReferenceStore
  workDirectory : String
  deriving DecidableEq, Repr

namespace Repository

/-- The name of the entry that leads to a git directory. -/
def entryName : String := ".git"

/-- A git directory, and the entry that led to it. -/
structure Finding where
  entry : Location
  store : ReferenceStore
  deriving DecidableEq, Repr

/-- What a search comes to at one place. -/
inductive Step where
  | found (finding : Finding)
  | goOn
  /-- The search must not go on. -/
  | deadEnd
  deriving DecidableEq, Repr

/-- The directory that the file at an entry links to. -/
def linked? (tree : FileTree) (entry : Location) : Option Location := do
  let text ← linkText? tree entry
  let path ← Text.after? "gitdir:".toList text.toList
  if path.isEmpty then none
  else target? tree entry.dropLast (String.ofList (path.dropWhile isSpace))

/-- What stands at a place that may be a git directory or lead to one. -/
def examine (tree : FileTree) (place : Location) : Step :=
  let judge (directory : Location) (otherwise : Step) : Step :=
    match common? tree directory with
    | none => .deadEnd
    | some common =>
      if isGitDirectory tree directory common then .found ⟨place, ⟨directory, common⟩⟩
      else otherwise
  match tree.find place with
  | .ok (.directory _) => judge place .goOn
  | .ok (.file ..) =>
    if place.getLast? = some entryName then
      match linked? tree place with
      | some directory => judge directory .deadEnd
      | none => .deadEnd
    else .goOn
  | .error _ => .goOn

/-- What stands at a place: an entry in it, or the place itself. -/
def examineBoth (tree : FileTree) (place : Location) : Step :=
  match examine tree (place ++ [entryName]) with
  | .goOn => examine tree place
  | step => step

/-- The git directory found from a place given backwards. -/
def searchUpwards? (tree : FileTree) : Location → Option Finding
  | [] =>
    match examineBoth tree [] with
    | .found finding => some finding
    | _ => none
  | name :: above =>
    match examineBoth tree (name :: above).reverse with
    | .found finding => some finding
    | .deadEnd => none
    | .goOn => if above.isEmpty then none else searchUpwards? tree above

/-- The git directory that is opened at a place. -/
def openAt? (tree : FileTree) (place : Location) : Option Finding :=
  match examineBoth tree place with
  | .found finding => some finding
  | _ => none

/-- Components with each step upwards taken back; none if one leads above the root. -/
def withoutSteps? : List Path.Component → List Path.Component → Option (List Path.Component)
  | upwards, [] => some upwards.reverse
  | .name _ :: upwards, .above :: rest => withoutSteps? upwards rest
  | _, .above :: _ => none
  | upwards, component :: rest => withoutSteps? (component :: upwards) rest

/-- The directory around the entry that a linked work tree's file names. An absolute path keeps its
spelling; a relative one is seen from the git directory. -/
def linkedWork? (directory : Location) (link : String) : Option String :=
  if Path.isAbsolute link then
    let entry := link.toList.reverse.dropWhile (· = '/')
    let around := (entry.dropWhile (· ≠ '/')).dropWhile (· = '/')
    some (Path.join (if around.isEmpty then "/" else String.ofList around.reverse) "")
  else
    let whole := Path.join (directoryText directory) link
    (withoutSteps? [] (Path.components whole)).map fun components =>
      directoryText ((components.foldl Path.step []).dropLast)

/-- Whether a git directory belongs to a linked work tree. -/
def isLinked (tree : FileTree) (store : ReferenceStore) : Bool :=
  store.own ≠ store.common && tree.contains (store.own ++ ["gitdir"])

/-- The work tree of a git directory with its settings. -/
def workDirectory? (tree : FileTree) (settings : List Setting) (finding : Finding) :
    Option String :=
  let own := finding.store.own
  if isLinked tree finding.store then
    (linkText? tree (own ++ ["gitdir"])).bind (linkedWork? own)
  else
    match (Configuration.find? "core.worktree" settings).bind Setting.value with
    | some path => (target? tree own (String.ofList path)).map directoryText
    | none => some (directoryText finding.entry.dropLast)

/-- Whether a repository has no work tree, given its settings; none if they do not say so in words
that can be understood. -/
def isBare? (tree : FileTree) (settings : List Setting) (store : ReferenceStore) : Option Bool :=
  match Configuration.find? "core.bare" settings with
  | none => some false
  | some setting => (Configuration.truth? setting).map (· && !isLinked tree store)

/-- The repository of a git directory; inside, none if it has no work tree. -/
def ofFinding? (tree : FileTree) (finding : Finding) : Option (Option Repository) := do
  let store := finding.store
  let settings ← Configuration.settings? tree store.own store.common
  if !Configuration.isKnownFormat settings then none
  else if ← isBare? tree settings store then return none
  else return some ⟨store, ← workDirectory? tree settings finding⟩

/-- The repository that a path leads to, seen from a directory. -/
def discover (tree : FileTree) (currentDirectory path : String) : Except GitError Repository :=
  let repository := do
    let start ← (tree.locate currentDirectory path).toOption
    let found ← searchUpwards? tree start.reverse
    let opened ← openAt? tree found.store.own
    ofFinding? tree opened
  match repository with
  | none => .error (.notARepository path)
  | some none => .error .bareRepository
  | some (some repository) => .ok repository

variable (repository : Repository)

/-- The git directory that all work trees share. -/
def commonDirectory : String :=
  directoryText repository.store.common

def state (tree : FileTree) : State :=
  .ofFiles tree repository.store.own

/-- No operation may be paused. -/
def ensureClean (tree : FileTree) : Except GitError Unit :=
  if (repository.state tree).isInProgress then
    .error (.operationInProgress (repository.state tree))
  else .ok ()

/-- The commit that the current branch points at, if there is one. -/
def head (tree : FileTree) : Except GitError (Option ObjectId) :=
  (repository.store.head tree).commit?

end Repository

end MemoryKeeper.Git

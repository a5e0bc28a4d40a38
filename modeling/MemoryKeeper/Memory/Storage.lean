import MemoryKeeper.Files.Path
import MemoryKeeper.Memory.Slug
import MemoryKeeper.Memory.Symbol

/-!
# Where memories are kept

A memory is a tracked file of the work tree, at `memories/<kind>/<slug>.md`.
Private data, that is the configuration of a repository and its lock, stands in
the git directory that all work trees share.

A path given from outside names a memory's file only if it stays below the
directory of memories: it must be relative and must not go upwards anywhere.
-/

namespace MemoryKeeper

open MemoryKeeper.Path (Location)

/-- The directories that storage hangs from. -/
structure Storage where
  commonDirectory : String
  workDirectory : String
  deriving DecidableEq, Repr

/-- The name of the directory of memories in the work tree. -/
def memoriesName : String := "memories"

/-- The ending of a memory's file name. -/
def memoryEnding : String := ".md"

/-- A memory, known by its category and slug. -/
structure MemoryEntry where
  symbol : Symbol
  slug : Slug
  deriving DecidableEq, Repr

namespace MemoryEntry

def fileName (entry : MemoryEntry) : String :=
  entry.slug.text ++ memoryEnding

/-- The names that lead to a memory's file from the work tree. -/
def names (entry : MemoryEntry) : Location :=
  [memoriesName, entry.symbol.kind, entry.fileName]

/-- The path of a memory's file from the work tree. -/
def relativePath (entry : MemoryEntry) : String :=
  "/".intercalate entry.names

end MemoryEntry

namespace Storage

def privateDirectory (storage : Storage) : String :=
  Path.join storage.commonDirectory "gitmem"

def configPath (storage : Storage) : String :=
  Path.join storage.privateDirectory "config.toml"

def lockPath (storage : Storage) : String :=
  Path.join storage.privateDirectory "lock"

def memoriesDirectory (storage : Storage) : String :=
  Path.join storage.workDirectory memoriesName

def symbolDirectory (storage : Storage) (symbol : Symbol) : String :=
  Path.join storage.memoriesDirectory symbol.kind

def memoryPath (storage : Storage) (entry : MemoryEntry) : String :=
  Path.join (storage.symbolDirectory entry.symbol) entry.fileName

/-- Whether a path given from outside may name something in the work tree: it is relative and does
not go upwards. -/
def isInward (path : String) : Bool :=
  !Path.isAbsolute path && !(Path.components path).contains .above

/-- The file below the directory of memories that a path given from outside names. -/
def memoryFile? (storage : Storage) (path : String) : Option String :=
  let whole := Path.join storage.workDirectory path
  if isInward path && (Path.componentsBelow? storage.memoriesDirectory whole).isSome then
    some whole
  else none

def place (storage : Storage) (entry : MemoryEntry) : Location :=
  Path.location (storage.memoryPath entry)

/-- The path that a memory's file is written at before it is moved to its own. -/
def draftPath (storage : Storage) (entry : MemoryEntry) : String :=
  storage.memoryPath entry ++ ".tmp"

/-- The place that a memory's file is written at before it is moved to its own. -/
def draftPlace (storage : Storage) (entry : MemoryEntry) : Location :=
  Path.location (storage.draftPath entry)

end Storage

end MemoryKeeper

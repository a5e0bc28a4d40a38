import MemoryKeeper.Command.Operation
import MemoryKeeper.Json.Basic
import MemoryKeeper.Memory.Depth
import MemoryKeeper.Memory.Slug
import MemoryKeeper.Memory.Symbol

/-!
# Commands

A command is an operation with arguments that meet every constraint of the
operation: slugs, symbols and depths are values of their types, and absent
arguments have been replaced by their defaults.
-/

namespace MemoryKeeper

/-- A command that can be executed. -/
inductive Command where
  | search (query : String) (depth : Depth)
  | create (symbol : Symbol) (slug : Slug) (content : String)
  | view (reference : String)
  | update (reference content : String)
  | delete (reference : String)
  | history (path : String) (depth : Depth)
  | diff (older newer : String)
  | list (symbol : Option Symbol)
  deriving DecidableEq, Repr

namespace Command

/-- The path of a history that names none. -/
def standardPath : String := "memories/"

/-- The revision from which a comparison starts if it names none. -/
def standardOlder : String := "HEAD~1"

/-- The revision at which a comparison ends if it names none. -/
def standardNewer : String := "HEAD"

def operation : Command → Operation
  | .search .. => .search
  | .create .. => .create
  | .view .. => .view
  | .update .. => .update
  | .delete .. => .delete
  | .history .. => .history
  | .diff .. => .diff
  | .list .. => .list

/-- The arguments of a command as data. -/
def arguments : Command → List (String × Json)
  | .search query depth => [("query", .string query), ("depth", .integer depth.value)]
  | .create symbol slug content =>
    [("symbol", .string symbol.glyph), ("slug", .string slug.text), ("content", .string content)]
  | .view reference => [("ref", .string reference)]
  | .update reference content => [("ref", .string reference), ("content", .string content)]
  | .delete reference => [("ref", .string reference)]
  | .history path depth => [("path", .string path), ("depth", .integer depth.value)]
  | .diff older newer => [("from", .string older), ("to", .string newer)]
  | .list symbol => Json.optionalMember "symbol" (symbol.map fun given => .string given.glyph)

/-- The members of a command as data. -/
def members (command : Command) : List (String × Json) :=
  [("op", .string command.operation.name), ("params", .object command.arguments)]

def toJson (command : Command) : Json :=
  .object command.members

end Command

end MemoryKeeper

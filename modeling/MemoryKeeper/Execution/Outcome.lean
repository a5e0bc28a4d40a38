import MemoryKeeper.Command.Basic
import MemoryKeeper.Command.Error
import MemoryKeeper.Git.Output
import MemoryKeeper.Json.Printer
import MemoryKeeper.Memory.Storage

/-!
# Outcomes and responses

An outcome is what an executed command found or did. A response is an outcome,
a command that was only checked, or an error. As data a response is one object
that tells first whether the command succeeded; the members of what it carries
follow, so a successful response names its operation and a failed one its error.
-/

namespace MemoryKeeper

open Git (SearchHit CommitSummary)

/-- A memory in a listing. -/
structure ListedMemory where
  symbol : Symbol
  slug : Slug
  path : String
  deriving DecidableEq, Repr

/-- A memory as a listing shows it. -/
def MemoryEntry.listed (entry : MemoryEntry) : ListedMemory :=
  ⟨entry.symbol, entry.slug, entry.relativePath⟩

/-- The result of an executed command. -/
inductive Outcome where
  | search (query : String) (depth : Depth) (hits : List SearchHit)
      (commits : List CommitSummary)
  | create (path : String) (symbol : Symbol) (slug : Slug) (commit : String)
  | view (reference : String) (path : Option String) (content : String)
  | update (path commit : String)
  | delete (path commit : String)
  | history (path : String) (depth : Depth) (commits : List CommitSummary)
  | diff (older newer text : String)
  | list (symbol : Option Symbol) (memories : List ListedMemory)
  deriving DecidableEq, Repr

def Git.SearchHit.toJson (hit : SearchHit) : Json :=
  .object [("path", .string hit.path), ("line", .integer hit.line), ("text", .string hit.text)]

def Git.CommitSummary.toJson (commit : CommitSummary) : Json :=
  .object [("hash", .string commit.hash), ("date", .string commit.date),
    ("subject", .string commit.subject)]

def ListedMemory.toJson (memory : ListedMemory) : Json :=
  .object [("symbol", .string memory.symbol.glyph), ("slug", .string memory.slug.text),
    ("path", .string memory.path)]

namespace Outcome

def operation : Outcome → Operation
  | .search .. => .search
  | .create .. => .create
  | .view .. => .view
  | .update .. => .update
  | .delete .. => .delete
  | .history .. => .history
  | .diff .. => .diff
  | .list .. => .list

def commitsJson (commits : List CommitSummary) : Json :=
  .array (commits.map CommitSummary.toJson)

/-- The members that an outcome has besides its operation. -/
def details : Outcome → List (String × Json)
  | .search query depth hits commits =>
    [("query", .string query), ("depth", .integer depth.value),
      ("matches", .array (hits.map SearchHit.toJson)), ("commits", commitsJson commits)]
  | .create path symbol slug commit =>
    [("path", .string path), ("symbol", .string symbol.glyph), ("slug", .string slug.text),
      ("commit", .string commit)]
  | .view reference path content =>
    ("ref", .string reference) :: Json.optionalMember "path" (path.map .string) ++
      [("content", .string content)]
  | .update path commit => [("path", .string path), ("commit", .string commit)]
  | .delete path commit => [("path", .string path), ("commit", .string commit)]
  | .history path depth commits =>
    [("path", .string path), ("depth", .integer depth.value), ("commits", commitsJson commits)]
  | .diff older newer text =>
    [("from", .string older), ("to", .string newer), ("diff", .string text)]
  | .list symbol memories =>
    Json.optionalMember "symbol" (symbol.map fun given => .string given.glyph) ++
      [("memories", .array (memories.map ListedMemory.toJson))]

/-- The members of an outcome as data, its operation first. -/
def members (outcome : Outcome) : List (String × Json) :=
  ("op", .string outcome.operation.name) :: outcome.details

end Outcome

/-- What is answered to a command. -/
inductive Response where
  | done (outcome : Outcome)
  | checked (command : Command)
  | failed (error : CommandError)
  deriving DecidableEq, Repr

namespace Response

def success : Response → Bool
  | .done _ => true
  | .checked _ => true
  | .failed _ => false

def error? : Response → Option CommandError
  | .failed error => some error
  | _ => none

/-- The members of what a response carries. -/
def body : Response → List (String × Json)
  | .done outcome => outcome.members
  | .checked command => command.members
  | .failed error => error.members

def toJson (response : Response) : Json :=
  .object (("success", .boolean response.success) :: response.body)

def render (layout : Json.Layout) (response : Response) : String :=
  response.toJson.render layout

end Response

end MemoryKeeper

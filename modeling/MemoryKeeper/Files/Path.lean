/-!
# Paths

A path is text. It is absolute if it starts with a slash; its components are the
pieces between slashes, where empty pieces do not count and a single dot counts
only as the first component of a relative path. Two spellings with the same
components name the same place, but joining keeps the text of both sides as it
is.

Whether one path lies below another is decided by components and never by text,
so a sibling whose name merely continues a directory's name is not below it.
-/

namespace MemoryKeeper.Path

/-- A component of a path. -/
inductive Component where
  | root
  /-- The directory itself. -/
  | here
  /-- The directory above. -/
  | above
  | name (text : String)
  deriving DecidableEq, Repr

/-- The pieces of a text between slashes, given the piece that was begun. -/
def piecesFrom : List Char → List Char → List (List Char)
  | piece, [] => [piece]
  | piece, character :: rest =>
    if character = '/' then piece :: piecesFrom [] rest
    else piecesFrom (piece ++ [character]) rest

/-- The pieces of a path between slashes, empty ones included. -/
def pieces (path : String) : List (List Char) :=
  piecesFrom [] path.toList

/-- The component that a piece is, if it counts behind the first. -/
def innerComponent? (piece : List Char) : Option Component :=
  if piece = [] ∨ piece = ['.'] then none
  else if piece = ['.', '.'] then some .above
  else some (.name (String.ofList piece))

/-- The components of a sequence of pieces; the first piece is empty if the path is absolute. -/
def componentsOfPieces : List (List Char) → List Component
  | [] => []
  | [[]] => []
  | [] :: rest => .root :: rest.filterMap innerComponent?
  | ['.'] :: rest => .here :: rest.filterMap innerComponent?
  | first :: rest => (first :: rest).filterMap innerComponent?

def components (path : String) : List Component :=
  componentsOfPieces (pieces path)

/-- Whether a path starts at the root. -/
def isAbsolute (path : String) : Bool :=
  path.toList.head? = some '/'

/-- A path below another one, with one slash between them unless there is one already or nothing
stands before it; an absolute path replaces what it is joined to. -/
def join (left right : String) : String :=
  if isAbsolute right then right
  else if left.isEmpty || left.toList.getLast? = some '/' then left ++ right
  else left ++ "/" ++ right

/-- What follows a path's beginning of given components. -/
def below? : List Component → List Component → Option (List Component)
  | [], path => some path
  | _ :: _, [] => none
  | expected :: directory, component :: path =>
    if expected = component then below? directory path else none

/-- The components of a path below a directory, if it lies at or below it. -/
def componentsBelow? (directory path : String) : Option (List Component) :=
  below? (components directory) (components path)

/-- A place in a file tree: the names that lead to it from the root. -/
abbrev Location := List String

/-- The place that a component leads to from a place; above the root is the root. -/
def step (place : Location) : Component → Location
  | .root => []
  | .here => place
  | .above => place.dropLast
  | .name text => place ++ [text]

def location (path : String) : Location :=
  (components path).foldl step []

def ofLocation (location : Location) : String :=
  if location.isEmpty then "/" else String.join (location.map ("/" ++ ·))

/-- Whether a path's text can only name a directory: it ends in a slash, or in a dot behind one. -/
def mustBeDirectory (path : String) : Bool :=
  match (pieces path).reverse with
  | last :: _ :: _ => last = [] || last = ['.']
  | _ => false

end MemoryKeeper.Path

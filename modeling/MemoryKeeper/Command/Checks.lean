import MemoryKeeper.Command.Basic
import MemoryKeeper.Command.Grammar
import MemoryKeeper.Text.Blank

/-!
# Checking arguments

Each operation checks its arguments in a fixed order and reports the first that
fails. Arguments beyond those it reads are ignored. Strings must be quoted;
a symbol may also be a glyph or a bare word whose text is a glyph.

`Command.process` is the whole way from a line to a command.
-/

namespace MemoryKeeper.Command

open MemoryKeeper.Text

/-- An argument that must be present and a string. -/
def requireString (operation : Operation) (problem : ArgumentProblem)
    (argument : Option Literal) : Except CommandError String :=
  match argument.bind Literal.string? with
  | some text => .ok text
  | none => .error (.invalidArgument operation problem)

/-- An argument that may be absent but must be a string. -/
def optionalString (operation : Operation) (name standard : String) :
    Option Literal → Except CommandError String
  | none => .ok standard
  | some argument => requireString operation (.notAString name) (some argument)

/-- A depth that may be absent but must be a legal number. -/
def optionalDepth (operation : Operation) : Option Literal → Except CommandError Depth
  | none => .ok .standard
  | some argument =>
    match argument.number? with
    | none => .error (.invalidArgument operation .depthNotANumber)
    | some number =>
      match number.toNat?.bind Depth.ofNat? with
      | some depth => .ok depth
      | none => .error (.invalidArgument operation (.depthNotLegal number))

/-- An argument whose text must be the glyph of a symbol. -/
def requireSymbol (operation : Operation) (argument : Literal) : Except CommandError Symbol :=
  match argument.text?.bind Symbol.ofGlyph? with
  | some symbol => .ok symbol
  | none => .error (.constraintViolation operation (.symbol argument))

/-- A text that must be a slug. -/
def requireSlug (operation : Operation) (text : String) : Except CommandError Slug :=
  match Slug.ofString? text with
  | some slug => .ok slug
  | none => .error (.constraintViolation operation (.slug text))

/-- Content must stay below the limit of words. -/
def checkContent (operation : Operation) (content : String) : Except CommandError Unit :=
  if wordCount content < contentWordLimit then .ok ()
  else .error (.constraintViolation operation (.content (wordCount content)))

def checkSearch (arguments : List Literal) : Except CommandError Command := do
  let query ← requireString .search (.required "a query string") arguments[0]?
  if query.isEmpty then .error (.invalidArgument .search (.empty "query"))
  else
    let depth ← optionalDepth .search arguments[1]?
    return .search query depth

def checkCreate : List Literal → Except CommandError Command
  | symbol :: slug :: content :: _ => do
    let symbol ← requireSymbol .create symbol
    let slug ← requireString .create (.notAString "slug") (some slug)
    let slug ← requireSlug .create slug
    let content ← requireString .create (.notAString "content") (some content)
    checkContent .create content
    return .create symbol slug content
  | _ => .error (.invalidArgument .create (.required "a symbol, a slug and content"))

def checkView (arguments : List Literal) : Except CommandError Command := do
  let reference ← requireString .view (.required "a ref string") arguments[0]?
  return .view reference

def checkUpdate : List Literal → Except CommandError Command
  | reference :: content :: _ => do
    let reference ← requireString .update (.notAString "ref") (some reference)
    let content ← requireString .update (.notAString "content") (some content)
    checkContent .update content
    return .update reference content
  | _ => .error (.invalidArgument .update (.required "a ref and content"))

def checkDelete (arguments : List Literal) : Except CommandError Command := do
  let reference ← requireString .delete (.required "a ref string") arguments[0]?
  return .delete reference

def checkHistory (arguments : List Literal) : Except CommandError Command := do
  let path ← optionalString .history "path" standardPath arguments[0]?
  let depth ← optionalDepth .history arguments[1]?
  return .history path depth

def checkDiff (arguments : List Literal) : Except CommandError Command := do
  let older ← optionalString .diff "from" standardOlder arguments[0]?
  let newer ← optionalString .diff "to" standardNewer arguments[1]?
  return .diff older newer

def checkList : List Literal → Except CommandError Command
  | [] => .ok (.list none)
  | symbol :: _ => do
    let symbol ← requireSymbol .list symbol
    return .list (some symbol)

/-- The command of an operation with the given arguments. -/
def ofArguments : Operation → List Literal → Except CommandError Command
  | .search => checkSearch
  | .create => checkCreate
  | .view => checkView
  | .update => checkUpdate
  | .delete => checkDelete
  | .history => checkHistory
  | .diff => checkDiff
  | .list => checkList

def ofExpression : Expression → Except CommandError Command
  | .literal _ => .error (.parse .notACall none)
  | .call name arguments =>
    match Operation.ofName? name with
    | none => .error (.unknownOperation name)
    | some operation => ofArguments operation arguments

def process (line : String) : Except CommandError Command := do
  let expression ← Expression.read line
  ofExpression expression

end MemoryKeeper.Command

import MemoryKeeper.Command.Literal
import MemoryKeeper.Command.Operation
import MemoryKeeper.Memory.Depth
import MemoryKeeper.Memory.Slug
import MemoryKeeper.Memory.Symbol

/-!
# Command errors

Everything that can go wrong with a command, by cause, with its wording and its
form as data. Errors about arguments carry the example of the operation that was
called, so that a caller can correct the exact argument; errors about a value
also name the field, the value and what was expected of it.
-/

namespace MemoryKeeper

/-- What is wrong with a line's tokens. -/
inductive SyntaxProblem where
  | unexpectedEnd
  | unexpectedClose
  | operationExpected
  | closeMissing
  | nested
  | invalidNumber (text : String)
  | trailing
  /-- The line is a literal where a command must be an operation. -/
  | notACall
  deriving DecidableEq, Repr

def SyntaxProblem.message : SyntaxProblem → String
  | .unexpectedEnd => "Unexpected end of input"
  | .unexpectedClose => "Unexpected token: )"
  | .operationExpected => "Expected operation name after ("
  | .closeMissing => "Missing closing paren"
  | .nested => "Nested expressions are not supported"
  | .invalidNumber text => "Invalid number literal: " ++ text
  | .trailing => "Unexpected tokens after expression"
  | .notACall => "Expected operation"

/-- What is wrong with an argument of the wrong type or with missing arguments. -/
inductive ArgumentProblem where
  /-- Arguments are missing, or the only one has the wrong type. -/
  | required (what : String)
  | empty (argument : String)
  | notAString (argument : String)
  | depthNotANumber
  | depthNotLegal (given : Number)
  deriving DecidableEq, Repr

/-- The wording of a problem with an operation's argument. -/
def ArgumentProblem.message (operation : Operation) : ArgumentProblem → String
  | .required what => operation.name ++ " requires " ++ what
  | .empty argument => operation.name ++ " " ++ argument ++ " cannot be empty"
  | .notAString argument => operation.name ++ " " ++ argument ++ " must be a string"
  | .depthNotANumber => operation.name ++ " depth must be a number"
  | .depthNotLegal _ => operation.name ++ " depth must be one of " ++ Depth.legalList

def ArgumentProblem.reported? : ArgumentProblem → Option Json
  | .depthNotLegal given => some given.toJson
  | _ => none

/-- The number of words that content must stay below. -/
def contentWordLimit : Nat := 200

/-- What is wrong with an argument of the right type. -/
inductive Violation where
  | symbol (given : Literal)
  | slug (given : String)
  | content (words : Nat)
  deriving DecidableEq, Repr

namespace Violation

/-- The field that a violation is about. -/
def field : Violation → String
  | .symbol _ => ":symbol"
  | .slug _ => ":slug"
  | .content _ => ":content"

def value : Violation → Json
  | .symbol given => given.toJson
  | .slug given => .string given
  | .content words => .string s!"{words} tokens"

def expected : Violation → String
  | .symbol _ => "one of " ++ Symbol.glyphList
  | .slug _ => "lowercase letters, digits and hyphens (" ++ Slug.shape ++ ")"
  | .content _ => s!"fewer than {contentWordLimit} tokens"

end Violation

/-- An error of a command, from the first token to the last step of its execution. -/
inductive CommandError where
  /-- The position counts tokens; a line that is no call has none. -/
  | parse (problem : SyntaxProblem) (position : Option Nat)
  | unknownOperation (name : String)
  | constraintViolation (operation : Operation) (violation : Violation)
  | invalidArgument (operation : Operation) (problem : ArgumentProblem)
  /-- A git process failed or could not be used. -/
  | git (command complaint : String) (suggestion : Option String)
  /-- The memories, the lock or the configuration do not allow the command. -/
  | memory (text : String) (suggestion : Option String)
  deriving DecidableEq, Repr

namespace CommandError

/-- The kind of an error, its tag in data. -/
def kind : CommandError → String
  | .parse .. => "parse-error"
  | .unknownOperation .. => "unknown-operation"
  | .constraintViolation .. => "constraint-violation"
  | .invalidArgument .. => "invalid-argument"
  | .git .. => "git-error"
  | .memory .. => "memory-error"

def message : CommandError → String
  | .parse problem _ => "parse error: " ++ problem.message
  | .unknownOperation name => "unknown operation '" ++ name ++ "'"
  | .constraintViolation _ violation =>
    "constraint violation on " ++ violation.field ++ ": expected " ++ violation.expected
  | .invalidArgument operation problem => problem.message operation
  | .git command complaint _ => "git command failed: " ++ command ++ ": " ++ complaint
  | .memory text _ => text

/-- The members that tell the errors of one kind apart; absent ones are left out. -/
def details : CommandError → List (String × Json)
  | .parse problem position =>
    ("message", .string problem.message) ::
      Json.optionalMember "position" (position.map fun index => .integer index)
  | .unknownOperation name =>
    [("operation", .string name), ("expected", .array (Operation.names.map .string))]
  | .constraintViolation operation violation =>
    [("field", .string violation.field), ("value", violation.value),
      ("expected", .string violation.expected), ("suggestion", .string operation.sample)]
  | .invalidArgument operation problem =>
    ("message", .string (problem.message operation)) ::
      Json.optionalMember "value" problem.reported? ++ [("suggestion", .string operation.sample)]
  | .git command complaint suggestion =>
    ("command", .string command) :: ("stderr", .string complaint) ::
      Json.optionalMember "suggestion" (suggestion.map .string)
  | .memory text suggestion =>
    ("message", .string text) :: Json.optionalMember "suggestion" (suggestion.map .string)

/-- The members of an error as data, the tag first. -/
def members (error : CommandError) : List (String × Json) :=
  ("error", .string error.kind) :: error.details

def toJson (error : CommandError) : Json :=
  .object error.members

end CommandError

end MemoryKeeper

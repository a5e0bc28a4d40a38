import MemoryKeeper.Json.Basic
import MemoryKeeper.Number.Notation
import MemoryKeeper.Text.Quoted
import MemoryKeeper.Json.Printer

/-!
# Command expressions

An expression applies an operation's name to a flat list of literals, or is a
single literal. A literal is a quoted string, a number, a glyph or a bare word.

The written form of an expression quotes its strings and writes everything else
as it stands, so a written expression that holds printable text only reads back
as itself. As data a call is an object and a literal its bare value.
-/

namespace MemoryKeeper

/-- A number of a command. -/
inductive Number where
  | integer (value : Int)
  | double (value : Double)
  deriving DecidableEq, Repr

namespace Number

/-- The number as a natural number below 2 ^ 32, if it is one. -/
def toNat? : Number → Option Nat
  | .integer value => if 0 ≤ value ∧ value < Nat.pow 2 32 then some value.toNat else none
  | .double value => value.toNat?.filter (· < Nat.pow 2 32)

def display : Number → String
  | .integer value => String.ofList (Json.integerText value)
  | .double value => String.ofList value.plainText

def toJson : Number → Json
  | .integer value => .integer value
  | .double value => .double value

end Number

/-- An argument of a command. -/
inductive Literal where
  | string (text : String)
  | number (value : Number)
  | glyph (text : String)
  | word (text : String)
  deriving DecidableEq, Repr

namespace Literal

def string? : Literal → Option String
  | .string text => some text
  | _ => none

def number? : Literal → Option Number
  | .number value => some value
  | _ => none

/-- The text of a string, a glyph or a word. -/
def text? : Literal → Option String
  | .string text => some text
  | .glyph text => some text
  | .word text => some text
  | .number _ => none

def display : Literal → String
  | .string text => Text.quote text
  | .number value => value.display
  | .glyph text => text
  | .word text => text

def toJson : Literal → Json
  | .number value => value.toJson
  | .string text => .string text
  | .glyph text => .string text
  | .word text => .string text

end Literal

/-- What a command line spells. -/
inductive Expression where
  | literal (value : Literal)
  | call (operation : String) (arguments : List Literal)
  deriving DecidableEq, Repr

namespace Expression

def display : Expression → String
  | .literal value => value.display
  | .call operation arguments =>
    "(" ++ arguments.foldl (fun text argument => text ++ " " ++ argument.display) operation ++ ")"

def toJson : Expression → Json
  | .literal value => value.toJson
  | .call operation arguments =>
    .object [("operation", .string operation), ("arguments", .array (arguments.map Literal.toJson))]

end Expression

end MemoryKeeper

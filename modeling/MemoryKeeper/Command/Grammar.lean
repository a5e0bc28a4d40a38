import MemoryKeeper.Command.Error
import MemoryKeeper.Command.Token

/-!
# The grammar of commands

An expression is a single literal, or a parenthesis, a bare word, any number of
literals and the closing parenthesis. Calls do not nest, and nothing may follow
an expression. A number with a point is the double that its text reads as; one
without is an integer of 64 bits.

An error carries the index of the token that rules the line out, which is the
number of tokens if the line ends too early.
-/

namespace MemoryKeeper

/-- The number that a number token spells. -/
def Number.read? (text : String) : Option Number :=
  let characters := text.toList
  if characters.contains '.' then (Double.ofNumeral? characters).map .double
  else
    match readInteger? characters with
    | some value =>
      if -(Nat.pow 2 63 : Int) ≤ value ∧ value < Nat.pow 2 63 then some (.integer value) else none
    | none => none

namespace Expression

/-- The literal of a token at an index. -/
def readLiteral (index : Nat) : Token → Except CommandError Literal
  | .string text => .ok (.string text)
  | .glyph text => .ok (.glyph text)
  | .word text => .ok (.word text)
  | .number text =>
    match Number.read? text with
    | some value => .ok (.number value)
    | none => .error (.parse (.invalidNumber text) (some index))
  | .openParen => .error (.parse .nested (some index))
  | .closeParen => .error (.parse .unexpectedClose (some index))

/-- The arguments from a token's index to the closing parenthesis, and what follows it. -/
def readArguments (index : Nat) :
    List Token → Except CommandError (List Literal × List Token)
  | [] => .error (.parse .closeMissing (some index))
  | .closeParen :: rest => .ok ([], rest)
  | token :: rest => do
    let argument ← readLiteral index token
    let (arguments, after) ← readArguments (index + 1) rest
    return (argument :: arguments, after)

/-- Nothing may follow an expression that ends before an index. -/
def expectEnd (index : Nat) : List Token → Except CommandError Unit
  | [] => .ok ()
  | _ :: _ => .error (.parse .trailing (some index))

/-- The expression that a sequence of tokens spells. -/
def ofTokens : List Token → Except CommandError Expression
  | [] => .error (.parse .unexpectedEnd (some 0))
  | .openParen :: .word operation :: rest => do
    let (arguments, after) ← readArguments 2 rest
    expectEnd (rest.length + 2 - after.length) after
    return .call operation arguments
  | .openParen :: _ => .error (.parse .operationExpected (some 1))
  | token :: rest => do
    let value ← readLiteral 0 token
    expectEnd 1 rest
    return .literal value

def read (line : String) : Except CommandError Expression :=
  ofTokens (Token.tokenize line)

end Expression

end MemoryKeeper

import MemoryKeeper.Text.Blank
import MemoryKeeper.Memory.Symbol

/-!
# Command tokens

A command is a line of parentheses, strings in double quotes, numbers, glyphs of
memory symbols and bare words. Splitting a line into tokens never fails: an
unterminated string ends with the line and a number with several points is kept
as it stands, so that the grammar of commands is the only place where a line is
rejected.

Blanks separate tokens and are needed only where two tokens would run together.
The blanks around the whole line are dropped first, which matters inside an
unterminated string at its end.
-/

namespace MemoryKeeper

/-- A token of a command line. -/
inductive Token where
  | openParen
  | closeParen
  /-- A string with its escapes decoded. -/
  | string (text : String)
  /-- The text of a number. -/
  | number (text : String)
  /-- A bare word. -/
  | word (text : String)
  /-- The glyph of a memory symbol. -/
  | glyph (text : String)
  deriving DecidableEq, Repr

namespace Token

open MemoryKeeper.Text

/-- A token as messages show it; a string stands in quotes without escapes. -/
def describe : Token → String
  | .openParen => "("
  | .closeParen => ")"
  | .string text => "\"" ++ text ++ "\""
  | .number text => text
  | .word text => text
  | .glyph text => text

/-- Characters that end a bare word. -/
def endsWord (character : Char) : Bool :=
  isBlank character || character = '(' || character = ')' || character = '"'

/-- Characters that continue a number. -/
def continuesNumber (character : Char) : Bool :=
  character.isDigit || character = '.'

/-- Whether a number starts at a character: at a digit, or at a hyphen before a digit. -/
def startsNumber (character : Char) (rest : List Char) : Bool :=
  character.isDigit || (character = '-' && rest.head?.any Char.isDigit)

/-- The character that a letter behind a backslash stands for. -/
def unescape : Char → Char
  | 'n' => '\n'
  | 't' => '\t'
  | 'r' => '\r'
  | other => other

/-- The text of a string whose opening quote was read, and what follows its closing quote.

The end of the line closes a string, and a backslash right before it is dropped. -/
def readString : List Char → List Char × List Char
  | [] => ([], [])
  | '"' :: rest => ([], rest)
  | ['\\'] => ([], [])
  | '\\' :: letter :: rest =>
    let (text, after) := readString rest
    (unescape letter :: text, after)
  | character :: rest =>
    let (text, after) := readString rest
    (character :: text, after)

theorem length_readString_le (source : List Char) :
    (readString source).2.length ≤ source.length := by
  fun_induction readString source <;> simp_all <;> omega

def scan : List Char → List Token
  | [] => []
  | character :: rest =>
    if isBlank character then scan rest
    else if character = '(' then .openParen :: scan rest
    else if character = ')' then .closeParen :: scan rest
    else if character = '"' then
      .string (String.ofList (readString rest).1) :: scan (readString rest).2
    else if startsNumber character rest then
      .number (String.ofList (character :: rest.takeWhile continuesNumber)) ::
        scan (rest.dropWhile continuesNumber)
    else if Symbol.isGlyph character then
      .glyph (String.singleton character) :: scan rest
    else
      .word (String.ofList (character :: rest.takeWhile (!endsWord ·))) ::
        scan (rest.dropWhile (!endsWord ·))
termination_by line => line.length
decreasing_by
  all_goals simp only [List.length_cons]
  any_goals omega
  · have shorter := length_readString_le rest
    omega
  · have shorter : (rest.dropWhile continuesNumber).length ≤ rest.length :=
      (List.dropWhile_sublist continuesNumber).length_le
    omega
  · have shorter : (rest.dropWhile (!endsWord ·)).length ≤ rest.length :=
      (List.dropWhile_sublist (!endsWord ·)).length_le
    omega

/-- The tokens of a line without the blanks around it. -/
def tokenize (line : String) : List Token :=
  scan (trim line.toList)

end Token

end MemoryKeeper

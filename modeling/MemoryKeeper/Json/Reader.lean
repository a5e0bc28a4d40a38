import MemoryKeeper.Json.Basic
import MemoryKeeper.Number.Scaled

/-!
# Reading data

The reader accepts exactly one value, with blanks around its lexemes. It works
in two steps. Lexemes are brackets, commas, colons and scalars; a string lexeme
has its escapes decoded and a number lexeme is an integer when it has neither
point nor exponent and fits into 64 bits. Other numbers are doubles, read to the
nearest or, more quickly, by scaling. The lexemes are then folded over a stack of
the arrays and objects that are still open, so no recursion follows the nesting of
the text.
-/

namespace MemoryKeeper.Json

/-- A lexeme of printed data. -/
inductive Lexeme where
  | openArray
  | closeArray
  | openObject
  | closeObject
  | comma
  | colon
  | scalar (value : Json)
  deriving Repr

def hexValue? (character : Char) : Option Nat :=
  if character.isDigit then some (character.toNat - '0'.toNat)
  else if 'a' ≤ character ∧ character ≤ 'f' then some (character.toNat - 'a'.toNat + 10)
  else if 'A' ≤ character ∧ character ≤ 'F' then some (character.toNat - 'A'.toNat + 10)
  else none

/-- The code unit that four hexadecimal digits spell. -/
def codeUnit? (first second third fourth : Char) : Option Nat := do
  let first ← hexValue? first
  let second ← hexValue? second
  let third ← hexValue? third
  let fourth ← hexValue? fourth
  return ((first * 16 + second) * 16 + third) * 16 + fourth

/-- The character that an escape of one letter stands for. -/
def simpleEscape? : Char → Option Char
  | '"' => some '"'
  | '\\' => some '\\'
  | '/' => some '/'
  | 'b' => some '\x08'
  | 'f' => some '\x0c'
  | 'n' => some '\n'
  | 'r' => some '\r'
  | 't' => some '\t'
  | _ => none

/-- The characters of a string whose opening quote was read, and what follows its closing quote. -/
def readString? : List Char → Option (List Char × List Char)
  | [] => none
  | '"' :: rest => some ([], rest)
  | '\\' :: 'u' :: first :: second :: third :: fourth :: rest =>
    match codeUnit? first second third fourth with
    | none => none
    | some unit =>
      if 0xDC00 ≤ unit ∧ unit ≤ 0xDFFF then none
      else if 0xD800 ≤ unit ∧ unit ≤ 0xDBFF then
        match rest with
        | '\\' :: 'u' :: first :: second :: third :: fourth :: rest =>
          match codeUnit? first second third fourth with
          | none => none
          | some low =>
            if 0xDC00 ≤ low ∧ low ≤ 0xDFFF then
              (readString? rest).map fun (text, after) =>
                (Char.ofNat (0x10000 + (unit - 0xD800) * 0x400 + (low - 0xDC00)) :: text, after)
            else none
        | _ => none
      else (readString? rest).map fun (text, after) => (Char.ofNat unit :: text, after)
  | '\\' :: letter :: rest =>
    match simpleEscape? letter with
    | none => none
    | some character => (readString? rest).map fun (text, after) => (character :: text, after)
  | character :: rest =>
    if character.toNat < 0x20 then none
    else (readString? rest).map fun (text, after) => (character :: text, after)

theorem length_lt_of_map_readString? {source text after : List Char}
    {result : Option (List Char × List Char)} {character : Char}
    (shorter : ∀ {text}, result = some (text, after) → after.length < source.length)
    (read : (result.map fun (text, after) => (character :: text, after)) = some (text, after)) :
    after.length < source.length := by
  simp only [Option.map_eq_some_iff, Prod.mk.injEq, Prod.exists] at read
  obtain ⟨inner, remaining, found, -, rfl⟩ := read
  exact shorter found

theorem length_lt_of_readString? {source text after : List Char}
    (read : readString? source = some (text, after)) : after.length < source.length := by
  fun_induction readString? source generalizing text with
  | case1 | case3 | case4 | case5 | case7 | case8 | case10 | case12 => simp at read
  | case2 rest => simp at read; simp [← read.2]
  | case6 | case9 | case11 | case13 =>
    rename_i ih
    refine Nat.lt_trans (length_lt_of_map_readString? (fun found => ih found) read) ?_
    simp +arith

/-- The characters that a number or a name of a constant is made of. -/
def isWordChar (character : Char) : Bool :=
  character.isAlphanum || character = '+' || character = '-' || character = '.'

/-- Whether digits may stand before the point of a number: no leading zero. -/
def isWholePart (digits : List Char) : Bool :=
  match digits with
  | [] => false
  | ['0'] => true
  | '0' :: _ => false
  | digits => digits.all Char.isDigit

/-- Whether a word has the shape of a number: a point stands between digits. -/
def isNumeral (word : List Char) : Bool :=
  let unsigned := match word with
    | '-' :: rest => rest
    | _ => word
  let whole := unsigned.takeWhile Char.isDigit
  let rest := unsigned.dropWhile Char.isDigit
  let fractionOk := match rest with
    | '.' :: digit :: _ => digit.isDigit
    | '.' :: _ => false
    | _ => true
  isWholePart whole && fractionOk

/-- How numbers that are not integers of 64 bits are read. -/
inductive Reading where
  /-- To the nearest double. -/
  | nearest
  /-- By scaling a rounded significand. -/
  | scaled
  deriving DecidableEq, Repr

def Reading.double? : Reading → List Char → Option Double
  | .nearest => Double.ofNumeral?
  | .scaled => Double.ofNumeralByScaling?

/-- The finite double that a numeral spells. -/
def readDouble? (reading : Reading) (word : List Char) : Option Json :=
  match reading.double? word with
  | some value => if value.isFinite then some (.double value) else none
  | none => none

def readNumber? (reading : Reading) (word : List Char) : Option Json :=
  if !isNumeral word then none
  else
    match readInteger? word with
    | some value =>
      if word ≠ ['-', '0'] ∧ -(Nat.pow 2 63 : Int) ≤ value ∧ value < Nat.pow 2 64 then
        some (.integer value)
      else readDouble? reading word
    | none => readDouble? reading word

/-- The constant or number that a word spells. -/
def readWord? (reading : Reading) (word : List Char) : Option Json :=
  if word = "null".toList then some .null
  else if word = "true".toList then some (.boolean true)
  else if word = "false".toList then some (.boolean false)
  else readNumber? reading word

def lexemes? (reading : Reading) : List Char → Option (List Lexeme)
  | [] => some []
  | '[' :: rest => (lexemes? reading rest).map (.openArray :: ·)
  | ']' :: rest => (lexemes? reading rest).map (.closeArray :: ·)
  | '\x7b' :: rest => (lexemes? reading rest).map (.openObject :: ·)
  | '\x7d' :: rest => (lexemes? reading rest).map (.closeObject :: ·)
  | ',' :: rest => (lexemes? reading rest).map (.comma :: ·)
  | ':' :: rest => (lexemes? reading rest).map (.colon :: ·)
  | '"' :: rest =>
    match _found : readString? rest with
    | none => none
    | some (text, after) =>
      (lexemes? reading after).map (.scalar (.string (String.ofList text)) :: ·)
  | character :: rest =>
    if character = ' ' ∨ character = '\n' ∨ character = '\t' ∨ character = '\r' then
      lexemes? reading rest
    else
      match readWord? reading (character :: rest.takeWhile isWordChar) with
      | none => none
      | some value => (lexemes? reading (rest.dropWhile isWordChar)).map (.scalar value :: ·)
termination_by text => text.length
decreasing_by
  all_goals simp only [List.length_cons]
  any_goals omega
  · have shorter := length_lt_of_readString? _found
    omega
  · have shorter : (rest.dropWhile isWordChar).length ≤ rest.length :=
      (List.dropWhile_sublist isWordChar).length_le
    omega

/-- An array or object that is still open, with what it holds so far, the last item first. -/
inductive Frame where
  | array (items : List Json)
  | object (members : List (String × Json))
  | member (members : List (String × Json)) (name : String)

/-- What may come next. -/
inductive Expectation where
  /-- A value, or the end of an array that is still empty. -/
  | value (mayClose : Bool)
  /-- The name of a member, or the end of an object that is still empty. -/
  | name (mayClose : Bool)
  /-- The colon after a name. -/
  | colon (name : String)
  /-- A comma or the end of the open array or object. -/
  | separator
  /-- Nothing. -/
  | nothing (result : Json)

/-- The open arrays and objects, innermost first, and what may come next. -/
structure State where
  frames : List Frame
  expectation : Expectation

namespace State

/-- A finished value goes into the innermost open array or object. -/
def deposit (value : Json) : List Frame → Option State
  | [] => some ⟨[], .nothing value⟩
  | .array items :: frames => some ⟨.array (value :: items) :: frames, .separator⟩
  | .member members name :: frames =>
    some ⟨.object ((name, value) :: members) :: frames, .separator⟩
  | .object _ :: _ => none

def step (state : State) (lexeme : Lexeme) : Option State :=
  match state.expectation, lexeme, state.frames with
  | .value _, .scalar value, frames => deposit value frames
  | .value _, .openArray, frames => some ⟨.array [] :: frames, .value true⟩
  | .value _, .openObject, frames => some ⟨.object [] :: frames, .name true⟩
  | .value true, .closeArray, .array items :: frames => deposit (.array items.reverse) frames
  | .name _, .scalar (.string name), frames => some ⟨frames, .colon name⟩
  | .name true, .closeObject, .object members :: frames =>
    deposit (.object members.reverse) frames
  | .colon name, .colon, .object members :: frames =>
    some ⟨.member members name :: frames, .value false⟩
  | .separator, .comma, .array items :: frames => some ⟨.array items :: frames, .value false⟩
  | .separator, .comma, .object members :: frames => some ⟨.object members :: frames, .name false⟩
  | .separator, .closeArray, .array items :: frames => deposit (.array items.reverse) frames
  | .separator, .closeObject, .object members :: frames =>
    deposit (.object members.reverse) frames
  | _, _, _ => none

/-- The state after a sequence of lexemes. -/
def run (state : State) : List Lexeme → Option State
  | [] => some state
  | lexeme :: rest => (state.step lexeme).bind (run · rest)

end State

/-- The value that a sequence of lexemes spells. -/
def ofLexemes? (lexemes : List Lexeme) : Option Json :=
  match State.run ⟨[], .value false⟩ lexemes with
  | some ⟨[], .nothing value⟩ => some value
  | _ => none

/-- The value that a text spells when its numbers are read in a certain way. -/
def readAs? (reading : Reading) (text : String) : Option Json :=
  (lexemes? reading text.toList).bind ofLexemes?

def read? (text : String) : Option Json :=
  readAs? .nearest text

end MemoryKeeper.Json

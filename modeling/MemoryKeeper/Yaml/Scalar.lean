import MemoryKeeper.Json.Reader
import MemoryKeeper.Yaml.Cursor

/-!
# Plain and quoted scalars

A line break inside a plain or quoted scalar is folded: it reads as one space, or
as the empty lines that follow it. The blanks around it are dropped.

A plain scalar ends before a colon that a blank follows, before a comment, and
before a line that is not indented deeper than the mapping. A document marker at
the start of a line ends a plain scalar and is an error inside quotes.
-/

namespace MemoryKeeper.Yaml

/-- The blanks and line breaks behind the last character of a scalar. -/
inductive Fold where
  | none
  | blanks (characters : List Char)
  /-- Line breaks, the first apart from the others. -/
  | breaks (first : Char) (others : List Char)
  /-- Line breaks behind an escaped one, which counts for nothing. -/
  | escaped (others : List Char)

namespace Fold

/-- Whether nothing stands behind the last character. -/
def isEmpty : Fold → Bool
  | .none => true
  | _ => false

def hasBreak : Fold → Bool
  | .none | .blanks _ => false
  | .breaks .. | .escaped _ => true

/-- One more blank; blanks at the start of a line are dropped. -/
def addBlank (character : Char) : Fold → Fold
  | .none => .blanks [character]
  | .blanks characters => .blanks (characters ++ [character])
  | fold => fold

/-- One more line break; blanks before the first are dropped. -/
def addBreak (character : Char) : Fold → Fold
  | .none | .blanks _ => .breaks (normalizeBreak character) []
  | .breaks first others => .breaks first (others ++ [normalizeBreak character])
  | .escaped others => .escaped (others ++ [normalizeBreak character])

/-- What the blanks and line breaks read as. -/
def text : Fold → List Char
  | .none => []
  | .blanks characters => characters
  | .breaks first others =>
    if first = '\n' then (if others.isEmpty then [' '] else others) else first :: others
  | .escaped others => others

end Fold

/-- A plain scalar that was read: what it holds, the position behind it, and whether that lies on a
later line. -/
structure PlainScalar where
  text : List Char
  after : Cursor
  passedBreak : Bool

/-- Reads on in a plain scalar, given what was read and the blanks behind it. Lines of it must be
indented as deep as given unless it stands in a flow mapping. -/
def readPlain? (inFlow : Bool) (indent : Nat) (read : List Char) (fold : Fold) (column : Nat) :
    List Char → Option PlainScalar
  | [] => some ⟨read, ⟨[], column⟩, fold.hasBreak⟩
  | character :: rest =>
    if isGap character then
      if character = '\t' ∧ fold.hasBreak ∧ column < indent then none
      else readPlain? inFlow indent read (fold.addBlank character) (column + 1) rest
    else if isBreak character then
      if character = '\r' ∧ rest.head? = some '\n' then
        readPlain? inFlow indent read fold column rest
      else readPlain? inFlow indent read (fold.addBreak character) 0 rest
    else
      let endsHere :=
        (column = 0 && fold.hasBreak && isMarker (character :: rest)) ||
        (character = '#' && !fold.isEmpty) ||
        (fold.hasBreak && !inFlow && column < indent) ||
        (character = ':' && atBlank rest) ||
        (inFlow && isFlowIndicator character)
      if endsHere then some ⟨read, ⟨character :: rest, column⟩, fold.hasBreak⟩
      else if inFlow && character = ':' && rest.head?.any (fun c => isFlowIndicator c || c = '?')
      then none
      else readPlain? inFlow indent (read ++ fold.text ++ [character]) .none (column + 1) rest

/-- Reads on in a scalar in single quotes; a quote in it is written twice. -/
def readSingle? (read : List Char) (fold : Fold) (column : Nat) :
    List Char → Option (List Char × Cursor)
  | [] => none
  | '\'' :: '\'' :: rest =>
    readSingle? (read ++ fold.text ++ ['\'']) .none (column + 2) rest
  | '\'' :: rest => some (read ++ fold.text, ⟨rest, column + 1⟩)
  | character :: rest =>
    if isGap character then readSingle? read (fold.addBlank character) (column + 1) rest
    else if isBreak character then
      if character = '\r' ∧ rest.head? = some '\n' then readSingle? read fold column rest
      else readSingle? read (fold.addBreak character) 0 rest
    else if column = 0 ∧ fold.hasBreak ∧ isMarker (character :: rest) then none
    else readSingle? (read ++ fold.text ++ [character]) .none (column + 1) rest

/-- The character that an escape of one letter stands for. -/
def escapedChar? : Char → Option Char
  | '0' => some '\x00'
  | 'a' => some '\x07'
  | 'b' => some '\x08'
  | 't' => some '\t'
  | '\t' => some '\t'
  | 'n' => some '\n'
  | 'v' => some '\x0b'
  | 'f' => some '\x0c'
  | 'r' => some '\r'
  | 'e' => some '\x1b'
  | ' ' => some ' '
  | '"' => some '"'
  | '/' => some '/'
  | '\\' => some '\\'
  | 'N' => some '\x85'
  | '_' => some '\xa0'
  | 'L' => some '\u2028'
  | 'P' => some '\u2029'
  | _ => none

/-- The number of hexadecimal digits that a letter behind a backslash announces. -/
def escapeWidth : Char → Nat
  | 'x' => 2
  | 'u' => 4
  | 'U' => 8
  | _ => 0

def codePoint? (digits : List Char) : Option Char := do
  let values ← digits.mapM Json.hexValue?
  let code := values.foldl (fun value digit => value * 16 + digit) 0
  if code.isValidChar then some (Char.ofNat code) else none

/-- Reads on in a scalar in double quotes. The digits of an escape that are still due are counted
in `due`, and those read stand in `digits`. -/
def readDouble? (read : List Char) (fold : Fold) (due : Nat) (digits : List Char) (column : Nat) :
    List Char → Option (List Char × Cursor)
  | [] => none
  | character :: rest =>
    match due with
    | 1 =>
      (codePoint? (digits ++ [character])).bind fun spelled =>
        readDouble? (read ++ [spelled]) .none 0 [] (column + 1) rest
    | due + 2 => readDouble? read .none (due + 1) (digits ++ [character]) (column + 1) rest
    | 0 =>
      if isGap character then
        readDouble? read (fold.addBlank character) 0 [] (column + 1) rest
      else if isBreak character then
        if character = '\r' ∧ rest.head? = some '\n' then
          readDouble? read fold 0 [] column rest
        else readDouble? read (fold.addBreak character) 0 [] 0 rest
      else if column = 0 ∧ fold.hasBreak ∧ isMarker (character :: rest) then none
      else if character = '"' then some (read ++ fold.text, ⟨rest, column + 1⟩)
      else if character = '\\' then
        match rest with
        | [] => none
        | '\r' :: '\n' :: rest => readDouble? (read ++ fold.text) (.escaped []) 0 [] 0 rest
        | letter :: rest =>
          if isBreak letter then
            readDouble? (read ++ fold.text) (.escaped []) 0 [] 0 rest
          else if 0 < escapeWidth letter then
            readDouble? (read ++ fold.text) .none (escapeWidth letter) [] (column + 2) rest
          else
            (escapedChar? letter).bind fun spelled =>
              readDouble? (read ++ fold.text ++ [spelled]) .none 0 [] (column + 2) rest
      else readDouble? (read ++ fold.text ++ [character]) .none 0 [] (column + 1) rest

end MemoryKeeper.Yaml

import MemoryKeeper.Json.Basic
import MemoryKeeper.Number.Notation

/-!
# Printed data

The compact layout has no blanks. The pretty layout puts every item and every
member on a line of its own, indented by two blanks for each level, with one
blank after a colon; an empty array or object stays on one line.

In a string a quote, a backslash and the controls below the space are escaped;
every other character stands for itself. A double that is not finite is printed
as null.
-/

namespace MemoryKeeper.Json

def hexDigit (value : Nat) : Char :=
  Nat.digitChar (value % 16)

def escapeChar (character : Char) : List Char :=
  match character with
  | '"' => ['\\', '"']
  | '\\' => ['\\', '\\']
  | '\x08' => ['\\', 'b']
  | '\t' => ['\\', 't']
  | '\n' => ['\\', 'n']
  | '\x0c' => ['\\', 'f']
  | '\r' => ['\\', 'r']
  | other =>
    if other.toNat < 0x20 then
      ['\\', 'u', '0', '0', hexDigit (other.toNat / 16), hexDigit other.toNat]
    else [other]

def quoted (text : String) : List Char :=
  '"' :: text.toList.flatMap escapeChar ++ ['"']

def integerText (value : Int) : List Char :=
  (if value < 0 then ['-'] else []) ++ Nat.toDigits 10 value.natAbs

/-- A value that is neither an array nor an object, printed; both layouts agree on it. -/
def scalarText : Json → List Char
  | .null => "null".toList
  | .boolean true => "true".toList
  | .boolean false => "false".toList
  | .integer value => integerText value
  | .double value => value.dataText?.getD "null".toList
  | .string text => quoted text
  | .array _ => []
  | .object _ => []

def joinWithCommas : List (List Char) → List Char
  | [] => []
  | [piece] => piece
  | piece :: rest => piece ++ ',' :: joinWithCommas rest

mutual

/-- The compact layout of a value. -/
def compactChars : Json → List Char
  | .array items => '[' :: joinWithCommas (compactItems items) ++ [']']
  | .object members => '\x7b' :: joinWithCommas (compactMembers members) ++ ['\x7d']
  | scalar => scalarText scalar

def compactItems : List Json → List (List Char)
  | [] => []
  | item :: rest => compactChars item :: compactItems rest

def compactMembers : List (String × Json) → List (List Char)
  | [] => []
  | (name, value) :: rest => (quoted name ++ ':' :: compactChars value) :: compactMembers rest

end

/-- A line break and the indentation of a level. -/
def newLine (level : Nat) : List Char :=
  '\n' :: List.replicate (2 * level) ' '

/-- Pieces between brackets, each on a line of its own. -/
def block (opening closing : Char) (level : Nat) : List (List Char) → List Char
  | [] => [opening, closing]
  | pieces =>
    opening :: joinWithCommas (pieces.map (newLine (level + 1) ++ ·)) ++ newLine level ++ [closing]

mutual

/-- The pretty layout of a value at a level of indentation. -/
def prettyChars (level : Nat) : Json → List Char
  | .array items => block '[' ']' level (prettyItems (level + 1) items)
  | .object members => block '\x7b' '\x7d' level (prettyMembers (level + 1) members)
  | scalar => scalarText scalar

/-- The pretty layouts of items at a level of indentation. -/
def prettyItems (level : Nat) : List Json → List (List Char)
  | [] => []
  | item :: rest => prettyChars level item :: prettyItems level rest

/-- The pretty layouts of members at a level of indentation. -/
def prettyMembers (level : Nat) : List (String × Json) → List (List Char)
  | [] => []
  | (name, value) :: rest =>
    (quoted name ++ ':' :: ' ' :: prettyChars level value) :: prettyMembers level rest

end

/-- How data is laid out. -/
inductive Layout where
  | compact
  | pretty
  deriving DecidableEq, Repr

/-- The compact layout wins over a preference for the pretty one. -/
def Layout.ofPreferences (compact pretty : Bool) : Layout :=
  if compact || !pretty then .compact else .pretty

def render (layout : Layout) (value : Json) : String :=
  match layout with
  | .compact => String.ofList (compactChars value)
  | .pretty => String.ofList (prettyChars 0 value)

mutual

/-- A value in which the members of every object stand in ascending order of their names, the last
of several with one name being kept. -/
def sorted : Json → Json
  | .array items => .array (sortedItems items)
  | .object members =>
    .object ((lastOfEach (sortedMembers members)).mergeSort fun left right => left.1 ≤ right.1)
  | scalar => scalar
where
  /-- The members that no later member shares its name with. -/
  lastOfEach : List (String × Json) → List (String × Json)
    | [] => []
    | member :: rest =>
      if rest.any (·.1 = member.1) then lastOfEach rest else member :: lastOfEach rest

def sortedItems : List Json → List Json
  | [] => []
  | item :: rest => sorted item :: sortedItems rest

def sortedMembers : List (String × Json) → List (String × Json)
  | [] => []
  | (name, value) :: rest => (name, sorted value) :: sortedMembers rest

end

end MemoryKeeper.Json

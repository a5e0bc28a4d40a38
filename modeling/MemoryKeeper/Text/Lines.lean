/-!
# Lines and fields

A line is what stands before a line feed or before the end of the text, less
one carriage return that stands right before the line feed. A text that ends in
a line feed has no further, empty line after it.

A field cut splits a line at the first separator only; what follows the
separator may hold it again.
-/

namespace MemoryKeeper.Text

/-- One carriage return at the end of a line belongs to the line's ending. -/
def dropCarriageReturn (line : List Char) : List Char :=
  if line.getLast? = some '\r' then line.dropLast else line

/-- The lines of a text, given the characters of the first line that were read already. -/
def linesFrom : List Char → List Char → List (List Char)
  | [], [] => []
  | collected, [] => [collected]
  | collected, '\n' :: rest => dropCarriageReturn collected :: linesFrom [] rest
  | collected, character :: rest => linesFrom (collected ++ [character]) rest

/-- The lines of a text without their endings. -/
def lines (text : String) : List (List Char) :=
  linesFrom [] text.toList

/-- What stands before the first separator, and what follows it if there is one. -/
def cut (separator : Char) : List Char → List Char × Option (List Char)
  | [] => ([], none)
  | character :: rest =>
    if character = separator then ([], some rest)
    else
      let (before, after) := cut separator rest
      (character :: before, after)

/-- Writes every carriage return that a line feed follows as the line feed alone. -/
def normalizeNewlines : List Char → List Char
  | [] => []
  | '\r' :: '\n' :: rest => '\n' :: normalizeNewlines rest
  | character :: rest => character :: normalizeNewlines rest

/-- What follows a given beginning, if the text has that beginning. -/
def after? : List Char → List Char → Option (List Char)
  | [], text => some text
  | _ :: _, [] => none
  | expected :: start, character :: rest =>
    if expected = character then after? start rest else none

/-- Whether a text holds a part somewhere. -/
def holds (part : List Char) : List Char → Bool
  | [] => part.isEmpty
  | character :: rest => part.isPrefixOf (character :: rest) || holds part rest

/-- The text without a given ending, or the text itself if it ends otherwise. -/
def withoutEnding (ending text : List Char) : List Char :=
  match after? ending.reverse text.reverse with
  | some rest => rest.reverse
  | none => text

end MemoryKeeper.Text

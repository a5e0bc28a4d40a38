import MemoryKeeper.Yaml.Character

/-!
# Positions in a header

A position is the characters that are left and the column of the next one.
Between tokens stand blanks, comments and line breaks; a byte order mark may
start a line and takes a column. A tab may not indent a line on which a key
could begin.
-/

namespace MemoryKeeper.Yaml

/-- A position in a header. -/
structure Cursor where
  rest : List Char
  column : Nat
  deriving DecidableEq, Repr

namespace Cursor

/-- The position behind a number of characters of the same line. -/
def advance (count : Nat) (cursor : Cursor) : Cursor :=
  ⟨cursor.rest.drop count, cursor.column + count⟩

/-- The position behind all characters of a class on the same line. -/
def skipWhile (inClass : Char → Bool) (cursor : Cursor) : Cursor :=
  cursor.advance (cursor.rest.takeWhile inClass).length

/-- What stands between a position and a later one. -/
def passedTo (start finish : Cursor) : List Char :=
  start.rest.take (start.rest.length - finish.rest.length)

/-- The position behind the blanks and the comment that a line ends with, if nothing else stands
there. -/
def endOfLine? (cursor : Cursor) : Option Cursor :=
  let blanks := cursor.skipWhile isGap
  let comment :=
    if blanks.rest.head? = some '#' then blanks.skipWhile (!isBreak ·) else blanks
  if atLineEnd comment.rest then some comment else none

end Cursor

/-- A position before a token, and whether a key may begin there. -/
structure Gap where
  next : Cursor
  keyAllowed : Bool

/-- Passes blanks, comments and line breaks. Inside a flow mapping a line break starts no key and
tabs are always blanks. -/
def skipGap (inFlow inComment keyAllowed : Bool) (column : Nat) : List Char → Gap
  | [] => ⟨⟨[], column⟩, keyAllowed⟩
  | character :: rest =>
    if isBreak character then skipGap inFlow false (keyAllowed || !inFlow) 0 rest
    else if inComment then skipGap inFlow true keyAllowed (column + 1) rest
    else if character = ' ' ∨ (character = '\t' ∧ (inFlow ∨ !keyAllowed)) ∨
        (character = byteOrderMark ∧ column = 0) then
      skipGap inFlow false keyAllowed (column + 1) rest
    else if character = '#' then skipGap inFlow true keyAllowed (column + 1) rest
    else ⟨⟨character :: rest, column⟩, keyAllowed⟩

end MemoryKeeper.Yaml

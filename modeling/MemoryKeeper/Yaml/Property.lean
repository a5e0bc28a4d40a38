import MemoryKeeper.Json.Reader
import MemoryKeeper.Yaml.Cursor

/-!
# Properties and directives

A node may carry an anchor, which names it, and a tag, which says what it is. A
tag is written in full between angle brackets, or as a handle between exclamation
marks with a suffix. Octets of a tag may be written as two hexadecimal digits
behind a percent sign, and must then make up whole characters.

A directive stands on a line of its own before a document. It gives the version
of YAML or declares a handle; there are no others.
-/

namespace MemoryKeeper.Yaml

/-- Whether a name of an anchor ends properly. -/
def endsAnchor (rest : List Char) : Bool :=
  atBlank rest || rest.head?.any (['?', ':', ',', ']', '\x7d', '%', '@', '\x60'].contains ·)

/-- The name behind the mark of an anchor or an alias, and the position behind it. -/
def readAnchor? (cursor : Cursor) : Option (String × Cursor) :=
  let name := (cursor.rest.drop 1).takeWhile isNameChar
  let after := cursor.advance (name.length + 1)
  if name.isEmpty || !endsAnchor after.rest then none
  else some (String.ofList name, after)

/-- The characters of a tag; commas and brackets only where the tag is marked off by itself. -/
def isTagChar (markedOff : Bool) (character : Char) : Bool :=
  isNameChar character || [';', '/', '?', ':', '@', '&', '=', '+', '$', '.', '~', '*', '\'',
    '(', ')', '!'].contains character ||
    (markedOff && [',', '[', ']'].contains character)

/-- The number of octets that follow an octet in the character that it begins. -/
def followers? (octet : Nat) : Option Nat :=
  if octet < 0x80 then some 0
  else if octet < 0xC0 then none
  else if octet < 0xE0 then some 1
  else if octet < 0xF0 then some 2
  else if octet < 0xF8 then some 3
  else none

/-- The number of octets that are still due behind an octet. -/
def dueAfter? (due octet : Nat) : Option Nat :=
  match due with
  | 0 => followers? octet
  | due + 1 => if 0x80 ≤ octet ∧ octet < 0xC0 then some due else none

/-- The length of the tag text that a text begins with, on top of what was counted, when a number
of octets is still due. -/
def tagLength? (markedOff : Bool) (due count : Nat) : List Char → Option Nat
  | '%' :: high :: low :: rest => do
    let octet := 16 * (← Json.hexValue? high) + (← Json.hexValue? low)
    tagLength? markedOff (← dueAfter? due octet) (count + 3) rest
  | '%' :: _ => none
  | character :: rest =>
    if 0 < due then none
    else if isTagChar markedOff character then tagLength? markedOff 0 (count + 1) rest
    else some count
  | [] => if 0 < due then none else some count

/-- The position behind the tag text at a position, which must not be empty. -/
def skipTagText? (markedOff : Bool) (cursor : Cursor) : Option Cursor := do
  let count ← tagLength? markedOff 0 0 cursor.rest
  if count = 0 then none else some (cursor.advance count)

/-- The handle of a tag that is no word between two exclamation marks. -/
def plainHandle : String := "!"

/-- The handle at a position: an exclamation mark, and a word with another one if there is one. -/
def readHandle? (cursor : Cursor) : Option (String × Cursor) :=
  match cursor.rest with
  | '!' :: rest =>
    let word := rest.takeWhile isNameChar
    if (rest.drop word.length).head? = some '!' then
      some (String.ofList ('!' :: word ++ ['!']), cursor.advance (word.length + 2))
    else some (plainHandle, cursor.advance 1)
  | _ => none

/-- The position behind the tag at a position, and the tag's handle. A tag in full needs none. -/
def skipTag? (cursor : Cursor) : Option (String × Cursor) :=
  match cursor.rest with
  | '!' :: '<' :: _ => do
    let after ← skipTagText? true (cursor.advance 2)
    if after.rest.head? = some '>' then return (plainHandle, after.advance 1) else none
  | _ => do
    let (handle, afterHandle) ← readHandle? cursor
    if handle = plainHandle then
      return (handle, afterHandle.advance (← tagLength? false 0 0 afterHandle.rest))
    else return (handle, ← skipTagText? false afterHandle)

/-- The handle of the tag at a position, and the position behind the tag, which a blank follows or
in a flow mapping a comma. -/
def readTag? (inFlow : Bool) (cursor : Cursor) : Option (String × Cursor) := do
  let (handle, after) ← skipTag? cursor
  if atBlank after.rest || (inFlow && after.rest.head? = some ',') then return (handle, after)
  else none

/-- A directive. -/
inductive Directive where
  | version (major minor : Nat)
  /-- A handle that tags of the document may use. -/
  | handle (name : String)
  deriving DecidableEq, Repr

/-- The most digits of a version's number. -/
def longestVersion : Nat := 9

/-- The number at a position, and the position behind it. -/
def readVersionNumber? (cursor : Cursor) : Option (Nat × Cursor) :=
  let digits := cursor.rest.takeWhile Char.isDigit
  if digits.isEmpty || longestVersion < digits.length then none
  else
    some (digits.foldl (fun value digit => 10 * value + (digit.toNat - '0'.toNat)) 0,
      cursor.advance digits.length)

/-- The version at a position, and the position behind it. -/
def readVersion? (cursor : Cursor) : Option (Directive × Cursor) := do
  let (major, point) ← readVersionNumber? (cursor.skipWhile isGap)
  if point.rest.head? = some '.' then
    let (minor, after) ← readVersionNumber? (point.advance 1)
    return (.version major minor, after)
  else none

/-- The handle and the text that it stands for at a position, and the position behind them. -/
def readDeclaration? (cursor : Cursor) : Option (Directive × Cursor) := do
  let (handle, afterHandle) ← readHandle? (cursor.skipWhile isGap)
  if afterHandle.rest.head?.any isGap then
    let after ← skipTagText? true (afterHandle.skipWhile isGap)
    if atBlank after.rest then return (.handle handle, after) else none
  else none

/-- The directive at a position, and the position of the line behind it. -/
def readDirective? (cursor : Cursor) : Option (Directive × Cursor) := do
  let name := (cursor.rest.drop 1).takeWhile isNameChar
  let afterName := cursor.advance (name.length + 1)
  let (directive, after) ←
    if !atBlank afterName.rest then none
    else if name = "YAML".toList then readVersion? afterName
    else if name = "TAG".toList then readDeclaration? afterName
    else none
  let finish ← after.endOfLine?
  return (directive, ⟨afterBreak finish.rest, 0⟩)

end MemoryKeeper.Yaml

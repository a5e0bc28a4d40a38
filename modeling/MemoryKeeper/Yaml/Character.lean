/-!
# Characters of headers

The classes of characters that the layout of a header rests on, and the markers
that stand around documents.
-/

namespace MemoryKeeper.Yaml

/-- Line breaks: line feed, carriage return, next line and the two separators. -/
def isBreak (character : Char) : Bool :=
  character = '\n' || character = '\r' || character = '\x85' ||
    character = '\u2028' || character = '\u2029'

def isGap (character : Char) : Bool :=
  character = ' ' || character = '\t'

/-- Whether a line break or the end comes next. -/
def atLineEnd : List Char → Bool
  | [] => true
  | character :: _ => isBreak character

/-- Whether a blank, a line break or the end comes next. -/
def atBlank : List Char → Bool
  | [] => true
  | character :: _ => isGap character || isBreak character

/-- The characters that may stand in a header. -/
def isAllowed (character : Char) : Bool :=
  let code := character.toNat
  code = 0x9 || code = 0xA || code = 0xD || (0x20 ≤ code && code ≤ 0x7E) || code = 0x85 ||
    (0xA0 ≤ code && code ≤ 0xD7FF) || (0xE000 ≤ code && code ≤ 0xFFFD) || 0x10000 ≤ code

/-- The mark of the byte order, which may start a line. -/
def byteOrderMark : Char := '\uFEFF'

/-- The characters of names: of anchors, of handles and of directives. -/
def isNameChar (character : Char) : Bool :=
  character.isAlphanum || character = '_' || character = '-'

/-- The brackets and commas of flow mappings. -/
def isFlowIndicator (character : Char) : Bool :=
  character = ',' || character = '[' || character = ']' || character = '\x7b' ||
    character = '\x7d'

/-- Whether the marker that ends a document stands at the start of a line. -/
def isEndMarker : List Char → Bool
  | '.' :: '.' :: '.' :: rest => atBlank rest
  | _ => false

/-- Whether the marker that starts a document stands at the start of a line. -/
def isStartMarker : List Char → Bool
  | '-' :: '-' :: '-' :: rest => atBlank rest
  | _ => false

/-- Whether a document marker stands at the start of a line. -/
def isMarker (text : List Char) : Bool :=
  isStartMarker text || isEndMarker text

/-- What follows a line break: a carriage return and a line feed behind it are one. -/
def afterBreak : List Char → List Char
  | '\r' :: '\n' :: rest => rest
  | text => text.drop 1

/-- The line break that a character stands for: the separators keep their own. -/
def normalizeBreak (character : Char) : Char :=
  if character = '\u2028' ∨ character = '\u2029' then character else '\n'

end MemoryKeeper.Yaml

/-!
# Blank characters

White space is the Unicode property `White_Space`: the ASCII controls from tab
to carriage return, the space, next line, the no-break space, the spaces of the
general punctuation block, the line and paragraph separators, and the
ideographic space. Zero-width characters and the information separators are
not blank.

Trimming and word counting are defined on character lists, with a version on
strings for callers that hold a string.
-/

namespace MemoryKeeper.Text

/-- The characters with the Unicode property `White_Space`. -/
def isBlank (character : Char) : Bool :=
  let code := character.toNat
  (0x9 ≤ code && code ≤ 0xD) || code == 0x20 || code == 0x85 || code == 0xA0 ||
    code == 0x1680 || (0x2000 ≤ code && code ≤ 0x200A) || code == 0x2028 || code == 0x2029 ||
    code == 0x202F || code == 0x205F || code == 0x3000

/-- The text without the blanks at its start. -/
def trimStart (text : List Char) : List Char :=
  text.dropWhile isBlank

/-- The text without the blanks at its end. -/
def trimEnd (text : List Char) : List Char :=
  (text.reverse.dropWhile isBlank).reverse

/-- The text without the blanks at either end. -/
def trim (text : List Char) : List Char :=
  trimEnd (trimStart text)

/-- The string without the blanks at either end. -/
def trimmed (text : String) : String :=
  String.ofList (trim text.toList)

/-- Whether a string holds nothing but blanks. -/
def isBlankText (text : String) : Bool :=
  text.toList.all isBlank

/-- The number of words that start in a text, given whether a word is open at its start. -/
def wordStarts : Bool → List Char → Nat
  | _, [] => 0
  | inWord, character :: rest =>
    if isBlank character then wordStarts false rest
    else if inWord then wordStarts true rest
    else wordStarts true rest + 1

/-- The number of maximal runs of non-blank characters. -/
def wordCount (text : String) : Nat :=
  wordStarts false text.toList

end MemoryKeeper.Text

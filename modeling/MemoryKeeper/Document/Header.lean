import MemoryKeeper.Memory.Slug
import MemoryKeeper.Memory.Symbol
import MemoryKeeper.Number.Double
import MemoryKeeper.Time.Reader
import MemoryKeeper.Yaml.Mapping

/-!
# Document headers

The header of a document has four fields, one to a line: symbol, slug, created
and updated. A slug that YAML could take for a null, a truth value, a number, a
list entry or a document marker is written in single quotes; everything else is
plain.

A header is read as a flat mapping of exactly these four keys in any order.
Reading is relaxed about the spelling of timestamps and strict about everything
else.
-/

namespace MemoryKeeper

/-- The fields of a document's header. -/
structure Header where
  symbol : Symbol
  slug : Slug
  created : Timestamp
  updated : Timestamp
  deriving DecidableEq, Repr

namespace Header

/-- Whether digits of a base spell a number below a bound. -/
def isBelow (isDigit : Char → Bool) (base bound : Nat) (digits : List Char) : Bool :=
  !digits.isEmpty && digits.all isDigit &&
    digits.foldl (fun value digit => value * base + (Json.hexValue? digit).getD 0) 0 < bound

/-- Whether a text without a sign spells an integer of 128 bits behind a mark of its base. -/
def isMarkedInteger (bound : Nat) : List Char → Bool
  | '0' :: 'x' :: digits => isBelow (fun c => (Json.hexValue? c).isSome) 16 bound digits
  | '0' :: 'o' :: digits => isBelow (fun c => '0' ≤ c && c ≤ '7') 8 bound digits
  | '0' :: 'b' :: digits => isBelow (fun c => c = '0' || c = '1') 2 bound digits
  | _ => false

/-- Whether a text without a sign is a number with zeros before it. -/
def hasLeadingZero : List Char → Bool
  | '0' :: rest => !rest.isEmpty && rest.all Char.isDigit
  | _ => false

/-- Whether a slug could be taken for a number. -/
def looksNumeric (text : List Char) : Bool :=
  let (unsigned, bound) :=
    match text with
    | '-' :: rest => (rest, Nat.pow 2 127 + 1)
    | _ => (text, Nat.pow 2 128)
  isMarkedInteger bound unsigned || hasLeadingZero unsigned ||
    (Double.ofNumeral? text).any Double.isFinite

/-- Whether a slug needs quotes in a header. -/
def needsQuotes (text : List Char) : Bool :=
  text = "null".toList || text = "true".toList || text = "false".toList || looksNumeric text ||
    text = ['-'] || ['-', '-', '-'].isPrefixOf text

/-- A slug as it is written in a header. -/
def slugText (slug : Slug) : List Char :=
  let text := slug.text.toList
  if needsQuotes text then '\'' :: text ++ ['\''] else text

def line (key : String) (value : List Char) : List Char :=
  key.toList ++ ':' :: ' ' :: value ++ ['\n']

def render (header : Header) : List Char :=
  line "symbol" header.symbol.glyph.toList ++ line "slug" (slugText header.slug) ++
    line "created" header.created.dataText.toList ++ line "updated" header.updated.dataText.toList

def fieldCount : Nat := 4

/-- The header with the given fields, if they are the four fields once each. -/
def ofFields? (fields : List (String × String)) : Option Header := do
  if fields.length ≠ fieldCount then none
  else
    let symbol ← Symbol.ofGlyph? (← fields.lookup "symbol")
    let slug ← Slug.ofString? (← fields.lookup "slug")
    let created ← Timestamp.readRelaxed? (← fields.lookup "created")
    let updated ← Timestamp.readRelaxed? (← fields.lookup "updated")
    return ⟨symbol, slug, created, updated⟩

def read? (text : List Char) : Option Header :=
  (Yaml.readMapping? text).bind ofFields?

end Header

end MemoryKeeper

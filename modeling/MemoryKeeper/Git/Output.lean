import MemoryKeeper.Number.Decimal
import MemoryKeeper.Text.Lines

/-!
# What git prints

A search prints each hit as its path, its line number and the text of the line,
with colons between them; the text may hold colons again. A log prints each
commit as its hash, its date and its subject, with blanks between them; the
subject may hold blanks and may be missing. Lines of another form are passed
over.

A log is searched with a pattern, so a text that is meant literally has its
special characters preceded by backslashes.
-/

namespace MemoryKeeper.Git

/-- A line that a search found. -/
structure SearchHit where
  path : String
  line : Nat
  text : String
  deriving DecidableEq, Repr

/-- A commit in a log. -/
structure CommitSummary where
  hash : String
  date : String
  subject : String
  deriving DecidableEq, Repr

/-- The number that a text of digits spells, with an optional plus sign, if it has at most 64
bits. -/
def lineNumber? (text : List Char) : Option Nat :=
  let digits := match text with
    | '+' :: rest => rest
    | _ => text
  if digits.isEmpty || !digits.all Char.isDigit then none
  else
    let value := Decimal.valueOfDigits digits
    if value < Nat.pow 2 64 then some value else none

def SearchHit.ofLine? (line : List Char) : Option SearchHit := do
  let (path, afterPath) := Text.cut ':' line
  let (number, afterNumber) := Text.cut ':' (← afterPath)
  let number ← lineNumber? number
  let text ← afterNumber
  return ⟨String.ofList path, number, String.ofList text⟩

def CommitSummary.ofLine? (line : List Char) : Option CommitSummary := do
  let (hash, afterHash) := Text.cut ' ' line
  let (date, subject) := Text.cut ' ' (← afterHash)
  return ⟨String.ofList hash, String.ofList date, String.ofList (subject.getD [])⟩

def searchHits (output : String) : List SearchHit :=
  (Text.lines output).filterMap SearchHit.ofLine?

def commitSummaries (output : String) : List CommitSummary :=
  (Text.lines output).filterMap CommitSummary.ofLine?

/-- The characters with a meaning of their own in patterns. -/
def isSpecial (character : Char) : Bool :=
  ['.', '[', ']', '(', ')', '*', '+', '?', '\x7b', '\x7d', '|', '^', '$', '\\'].contains character

/-- The pattern of a literal text. -/
def escapePattern (text : List Char) : List Char :=
  text.flatMap fun character => if isSpecial character then ['\\', character] else [character]

end MemoryKeeper.Git

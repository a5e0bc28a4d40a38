import MemoryKeeper.Text.Blank
import MemoryKeeper.Number.Decimal
import MemoryKeeper.Time.Timestamp

/-!
# Reading timestamps

Two grammars are read. The strict one is RFC 3339: fields of a fixed width, a
letter T in either case or one space between date and time, seconds required,
and an offset that is the letter Z in either case or signed hours and minutes
with a colon. The relaxed one is what data and document headers may hold: blanks
before separators, numbers and the offset, fields of one digit, years of any
length behind a sign, offsets without a colon, and the word UTC.

Both keep the first nine digits of a fraction and drop the rest, accept second
60 in any minute, and take the minus sign U+2212 for a hyphen in the offset.
-/

namespace MemoryKeeper.Timestamp

open MemoryKeeper.Text

/-- A number of at least one and at most a given count of digits, and what follows it. -/
def takeNumber? (most : Nat) (text : List Char) : Option (Nat × List Char) :=
  let digits := (text.takeWhile Char.isDigit).take most
  if digits.isEmpty then none
  else some (Decimal.valueOfDigits digits, text.drop digits.length)

/-- A number of exactly a given count of digits, and what follows it. -/
def takeFixed? (width : Nat) (text : List Char) : Option (Nat × List Char) :=
  let digits := text.take width
  if digits.length = width ∧ digits.all Char.isDigit then
    some (Decimal.valueOfDigits digits, text.drop width)
  else none

def skip? (expected : Char) : List Char → Option (List Char)
  | character :: rest => if character = expected then some rest else none
  | [] => none

/-- A fraction in nanoseconds, zero if there is no point, and what follows it. -/
def takeFraction? : List Char → Option (Nat × List Char)
  | '.' :: rest =>
    let digits := rest.takeWhile Char.isDigit
    if digits.isEmpty then none
    else
      let kept := digits.take 9
      some (Decimal.valueOfDigits kept * Nat.pow 10 (9 - kept.length), rest.dropWhile Char.isDigit)
  | text => some (0, text)

/-- What follows the separator of date and time. -/
def skipTimeMark? : List Char → Option (List Char)
  | 'T' :: rest => some rest
  | 't' :: rest => some rest
  | ' ' :: rest => some rest
  | _ => none

/-- Two digits of minutes of an offset, and what follows them. -/
def takeOffsetMinutes? (text : List Char) : Option (Nat × List Char) := do
  let (minutes, rest) ← takeFixed? 2 text
  if minutes < 60 then some (minutes, rest) else none

/-- The minutes by which a clock is ahead of UTC, and what follows the offset; the argument reads
what stands between hours and minutes. -/
def takeOffset? (between : List Char → Option (List Char)) :
    List Char → Option (Int × List Char)
  | 'Z' :: rest => some (0, rest)
  | 'z' :: rest => some (0, rest)
  | sign :: rest =>
    if sign = '+' ∨ sign = '-' ∨ sign = '\u2212' then do
      let (hours, rest) ← takeFixed? 2 rest
      let (minutes, rest) ← takeOffsetMinutes? (← between rest)
      let total : Int := hours * 60 + minutes
      if total < 1440 then some (if sign = '+' then total else -total, rest) else none
    else none
  | [] => none

/-- The timestamp of read fields. -/
def ofFields? (year : Int) (month day hour minute second nanosecond : Nat) (ahead : Int) :
    Option Timestamp := do
  if !isStorableYear year || 24 ≤ hour || 60 ≤ minute then none
  else
    let date ← Date.ofFields? year month day
    ofLocal? date hour minute second nanosecond ahead

/-- Reads the strict grammar. -/
def readStrictChars? (text : List Char) : Option Timestamp := do
  let (year, rest) ← takeFixed? 4 text
  let (month, rest) ← takeFixed? 2 (← skip? '-' rest)
  let (day, rest) ← takeFixed? 2 (← skip? '-' rest)
  let (hour, rest) ← takeFixed? 2 (← skipTimeMark? rest)
  let (minute, rest) ← takeFixed? 2 (← skip? ':' rest)
  let (second, rest) ← takeFixed? 2 (← skip? ':' rest)
  let (nanosecond, rest) ← takeFraction? rest
  let (ahead, rest) ← takeOffset? (skip? ':') rest
  if rest.isEmpty then ofFields? year month day hour minute second nanosecond ahead else none

/-- Reads the strict grammar with blanks around it. -/
def read? (text : String) : Option Timestamp :=
  readStrictChars? (trim text.toList)

/-- A year of the relaxed grammar: up to four digits, or any number of them behind a sign. -/
def takeRelaxedYear? (text : List Char) : Option (Int × List Char) :=
  match trimStart text with
  | '-' :: rest => (takeNumber? rest.length rest).map fun (value, after) => (-(value : Int), after)
  | '+' :: rest => (takeNumber? rest.length rest).map fun (value, after) => ((value : Int), after)
  | unsigned => (takeNumber? 4 unsigned).map fun (value, after) => ((value : Int), after)

def takeRelaxed? (text : List Char) : Option (Nat × List Char) :=
  takeNumber? 2 (trimStart text)

/-- An offset of the relaxed grammar; the name of UTC may be written in either case. -/
def takeRelaxedOffset? (text : List Char) : Option (Int × List Char) :=
  let text := trimStart text
  if (text.take 3).map Char.toUpper = ['U', 'T', 'C'] then some (0, text.drop 3)
  else takeOffset? (fun rest => some (rest.dropWhile fun c => c = ':' || isBlank c)) text

/-- Reads the relaxed grammar. -/
def readRelaxedChars? (text : List Char) : Option Timestamp := do
  let (year, rest) ← takeRelaxedYear? text
  let (month, rest) ← takeRelaxed? (← skip? '-' (trimStart rest))
  let (day, rest) ← takeRelaxed? (← skip? '-' (trimStart rest))
  let (hour, rest) ← takeRelaxed? (← skipTimeMark? rest)
  let (minute, rest) ← takeRelaxed? (← skip? ':' (trimStart rest))
  let (second, rest) ← takeRelaxed? (← skip? ':' (trimStart rest))
  let (nanosecond, rest) ← takeFraction? rest
  let (ahead, rest) ← takeRelaxedOffset? rest
  if rest.all isBlank then ofFields? year month day hour minute second nanosecond ahead else none

/-- Reads the relaxed grammar, in which data and document headers are written. -/
def readRelaxed? (text : String) : Option Timestamp :=
  readRelaxedChars? text.toList

end MemoryKeeper.Timestamp

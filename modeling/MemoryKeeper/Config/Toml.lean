import MemoryKeeper.Json.Reader

/-!
# Flat TOML documents

A configuration file is a TOML document that has nothing but keys with strings
and truth values. Keys are bare or quoted. A string is basic, with escapes, or
literal, and either kind may run over several lines between triple quotes; there
a line break right behind the opening quotes does not count, a line break is
always read as a line feed, and in a basic string a backslash at the end of a
line joins it with the next text.

The reader is bounded by the number of entries that the caller can use, and
refuses whatever is no such document: tables, dotted keys, other values, control
characters.
-/

namespace MemoryKeeper.Toml

/-- A value of a flat document. -/
inductive Value where
  | string (text : String)
  | boolean (value : Bool)
  deriving DecidableEq, Repr

/-- Blanks inside a line. -/
def isGap (character : Char) : Bool :=
  character = ' ' || character = '\t'

/-- Characters that may stand nowhere but in a line break. -/
def isControl (character : Char) : Bool :=
  (character.toNat < 0x20 && character ≠ '\t') || character.toNat = 0x7F

/-- The character of a number, if it is one. -/
def scalar? (code : Nat) : Option Char :=
  if code.isValidChar then some (Char.ofNat code) else none

def codePoint? (digits : List Char) : Option Char := do
  let values ← digits.mapM Json.hexValue?
  scalar? (values.foldl (fun code value => code * 16 + value) 0)

/-- The character that an escape of one letter stands for. -/
def namedEscape? : Char → Option Char
  | 'b' => some '\x08'
  | 't' => some '\t'
  | 'n' => some '\n'
  | 'f' => some '\x0c'
  | 'r' => some '\r'
  | '"' => some '"'
  | '\\' => some '\\'
  | _ => none

/-- The number of digits behind the letter of a numeric escape. -/
def escapeWidth? : Char → Option Nat
  | 'u' => some 4
  | 'U' => some 8
  | _ => none

/-- The character that an escape stands for, given what follows its backslash, and the rest. -/
def escape? : List Char → Option (Char × List Char)
  | [] => none
  | letter :: rest =>
    match namedEscape? letter, escapeWidth? letter with
    | some character, _ => some (character, rest)
    | none, none => none
    | none, some width =>
      if rest.length < width then none
      else (codePoint? (rest.take width)).map fun character => (character, rest.drop width)

theorem length_lt_of_escape? {text after : List Char} {character : Char}
    (read : escape? text = some (character, after)) : after.length < text.length := by
  cases text with
  | nil => simp [escape?] at read
  | cons letter rest =>
    simp only [escape?] at read
    split at read
    · simp at read
      simp [← read.2]
    · simp at read
    · split at read
      · simp at read
      · simp only [Option.map_eq_some_iff, Prod.mk.injEq] at read
        obtain ⟨_, _, _, rfl⟩ := read
        simp only [List.length_cons, List.length_drop]
        omega

/-- The characters of a basic string whose opening quote was read, and what follows it. -/
def readBasic? : List Char → Option (List Char × List Char)
  | [] => none
  | '"' :: rest => some ([], rest)
  | '\\' :: rest =>
    match _found : escape? rest with
    | none => none
    | some (character, after) =>
      (readBasic? after).map fun (text, remaining) => (character :: text, remaining)
  | character :: rest =>
    if isControl character then none
    else (readBasic? rest).map fun (text, remaining) => (character :: text, remaining)
termination_by text => text.length
decreasing_by
  · have shorter := length_lt_of_escape? _found
    simp only [List.length_cons]
    omega
  all_goals simp only [List.length_cons]
  all_goals omega

/-- The characters of a literal string whose opening quote was read, and what follows it. -/
def readLiteral? : List Char → Option (List Char × List Char)
  | [] => none
  | '\'' :: rest => some ([], rest)
  | character :: rest =>
    if isControl character then none
    else (readLiteral? rest).map fun (text, remaining) => (character :: text, remaining)

/-- What the text between triple quotes ends with, given what follows three quotes of its end: up
to two more quotes belong to the text. -/
def closing (quote : Char) : List Char → List Char × List Char
  | first :: second :: rest =>
    if first = quote ∧ second = quote then ([quote, quote], rest)
    else if first = quote then ([quote], second :: rest)
    else ([], first :: second :: rest)
  | [first] => if first = quote then ([quote], []) else ([], [first])
  | [] => ([], [])

/-- The text behind a line break at its start, if there is one. -/
def afterBreak? : List Char → Option (List Char)
  | '\n' :: rest => some rest
  | '\r' :: '\n' :: rest => some rest
  | _ => none

/-- Whether nothing but blanks stands before the next line break. -/
def atLineEnd (text : List Char) : Bool :=
  (afterBreak? (text.dropWhile isGap)).isSome

/-- The characters of a basic string of several lines, and what follows it; while joining, blanks
and line breaks are passed over. -/
def readLongBasic? (joining : Bool) : List Char → Option (List Char × List Char)
  | [] => none
  | '"' :: '"' :: '"' :: rest => some (closing '"' rest)
  | '\\' :: rest =>
    match _found : escape? rest with
    | some (character, after) =>
      (readLongBasic? false after).map fun (text, remaining) => (character :: text, remaining)
    | none => if atLineEnd rest then readLongBasic? true rest else none
  | '\r' :: '\n' :: rest =>
    if joining then readLongBasic? true rest
    else (readLongBasic? false rest).map fun (text, remaining) => ('\n' :: text, remaining)
  | character :: rest =>
    if joining && (isGap character || character = '\n') then readLongBasic? true rest
    else if isControl character && character ≠ '\n' then none
    else
      (readLongBasic? false rest).map fun (text, remaining) => (character :: text, remaining)
termination_by text => text.length
decreasing_by
  · have shorter := length_lt_of_escape? _found
    simp only [List.length_cons]
    omega
  all_goals simp only [List.length_cons]
  all_goals omega

/-- The characters of a literal string of several lines, and what follows it. -/
def readLongLiteral? : List Char → Option (List Char × List Char)
  | [] => none
  | '\'' :: '\'' :: '\'' :: rest => some (closing '\'' rest)
  | '\r' :: '\n' :: rest =>
    (readLongLiteral? rest).map fun (text, remaining) => ('\n' :: text, remaining)
  | character :: rest =>
    if isControl character && character ≠ '\n' then none
    else (readLongLiteral? rest).map fun (text, remaining) => (character :: text, remaining)

/-- The text behind the line break that may follow opening triple quotes. -/
def skipFirstBreak (text : List Char) : List Char :=
  (afterBreak? text).getD text

/-- A string of any kind, and what follows it. -/
def readString? : List Char → Option (List Char × List Char)
  | '"' :: '"' :: '"' :: rest => readLongBasic? false (skipFirstBreak rest)
  | '\'' :: '\'' :: '\'' :: rest => readLongLiteral? (skipFirstBreak rest)
  | '"' :: rest => readBasic? rest
  | '\'' :: rest => readLiteral? rest
  | _ => none

/-- A value, and what follows it. -/
def readValue? : List Char → Option (Value × List Char)
  | 't' :: 'r' :: 'u' :: 'e' :: rest => some (.boolean true, rest)
  | 'f' :: 'a' :: 'l' :: 's' :: 'e' :: rest => some (.boolean false, rest)
  | text => (readString? text).map fun (value, rest) => (.string (String.ofList value), rest)

def isBareChar (character : Char) : Bool :=
  character.isAlphanum || character = '_' || character = '-'

/-- A key, and what follows it. -/
def readKey? : List Char → Option (List Char × List Char)
  | '"' :: rest => readBasic? rest
  | '\'' :: rest => readLiteral? rest
  | text =>
    let key := text.takeWhile isBareChar
    if key.isEmpty then none else some (key, text.dropWhile isBareChar)

/-- What follows blanks, line breaks and comments; inside a comment everything up to the line break
belongs to it. -/
def skipVoid? (inComment : Bool) : List Char → Option (List Char)
  | [] => some []
  | '\n' :: rest => skipVoid? false rest
  | '\r' :: '\n' :: rest => skipVoid? false rest
  | character :: rest =>
    if inComment then if isControl character then none else skipVoid? true rest
    else if isGap character then skipVoid? false rest
    else if character = '#' then skipVoid? true rest
    else some (character :: rest)

/-- Whether a line may end at a text: it starts with a comment or a line break, or is empty. -/
def endsEntry (text : List Char) : Bool :=
  text.isEmpty || text.head? = some '#' || (afterBreak? text).isSome

/-- The entry at the start of a text, and what follows its line. -/
def readEntry? (text : List Char) : Option ((String × Value) × List Char) := do
  let (key, afterKey) ← readKey? text
  match afterKey.dropWhile isGap with
  | '=' :: rest =>
    let (value, afterValue) ← readValue? (rest.dropWhile isGap)
    let remaining := afterValue.dropWhile isGap
    if endsEntry remaining then
      let next ← skipVoid? false remaining
      return ((String.ofList key, value), next)
    else none
  | _ => none

/-- The entries of a text that starts with one, at most as many as given. -/
def readEntries? : Nat → List Char → Option (List (String × Value))
  | _, [] => some []
  | 0, _ :: _ => none
  | limit + 1, text => do
    let (entry, rest) ← readEntry? text
    let entries ← readEntries? limit rest
    return entry :: entries

/-- The entries of a document in order, if it has at most as many. -/
def read? (limit : Nat) (document : String) : Option (List (String × Value)) := do
  let characters := document.toList
  let text := if characters.head? = some '\uFEFF' then characters.drop 1 else characters
  readEntries? limit (← skipVoid? false text)

end MemoryKeeper.Toml

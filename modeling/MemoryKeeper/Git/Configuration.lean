import MemoryKeeper.Git.Directory
import MemoryKeeper.Json.Reader
import MemoryKeeper.Number.Decimal
import MemoryKeeper.Text.Lines

/-!
# Configuration of a repository

A configuration file holds sections in brackets and settings in lines of the form
`name = value`; a name alone stands for the truth. The name of a section and of a
setting are of any case, that of a subsection stands between quotes. A semicolon
or a hash outside quotes begins a comment. A backslash at the end of a line goes
on with the next one, and another one inside a value escapes the letter behind
it. A setting `include.path` takes in another file in its place.

Of several settings with one name the last one counts, and those of a work tree
come after those that are shared.
-/

namespace MemoryKeeper.Git

open MemoryKeeper.Path (Location)

/-- A setting with the name of its section. -/
structure Setting where
  name : List Char
  /-- The value, unless the name stands alone. -/
  value : Option (List Char)
  deriving DecidableEq, Repr

/-- A value that goes on in the next line. -/
structure OpenSetting where
  name : List Char
  value : List Char
  inQuotes : Bool

namespace Configuration

def isNameChar (character : Char) : Bool :=
  character.isAlphanum || character = '-'

def lower (name : List Char) : List Char :=
  name.map Char.toLower

/-- Where in a line a comment may begin. -/
structure CommentScan where
  inQuotes : Bool
  /-- The character before; none at the beginning of the line. -/
  before : Option Char
  /-- Whether the backslashes before are odd in number. -/
  escaped : Bool

namespace CommentScan

def start (inQuotes : Bool) : CommentScan :=
  ⟨inQuotes, none, false⟩

/-- The scan after one more character. A quote counts unless it begins the line or stands behind
a backslash. -/
def step (scan : CommentScan) (character : Char) : CommentScan :=
  let counts := character = '"' && scan.before.any (· ≠ '\\')
  ⟨scan.inQuotes != counts, some character, character = '\\' && !scan.escaped⟩

/-- A line up to its comment, and whether quotes are open at its end. -/
def run (scan : CommentScan) : List Char → List Char × Bool
  | [] => ([], scan.inQuotes)
  | character :: rest =>
    if (character = ';' || character = '#') && !scan.inQuotes && !scan.escaped then
      ([], scan.inQuotes)
    else
      let (line, inQuotes) := (scan.step character).run rest
      (character :: line, inQuotes)

end CommentScan

/-- A line up to its comment and without the spaces at its end, and whether quotes are open there,
given whether they are open at its beginning. A null character ends a line, too. -/
def withoutComment (inQuotes : Bool) (line : List Char) : List Char × Bool :=
  let (text, inQuotes) := (CommentScan.start inQuotes).run (untilNull line)
  (trimSpaces text, inQuotes)

/-- The character that an escape of one letter stands for. -/
def escaped? : Char → Option Char
  | 'n' => some '\n'
  | 't' => some '\t'
  | 'b' => some '\x08'
  | '"' => some '"'
  | '\\' => some '\\'
  | _ => none

/-- The value that a text spells, and whether it goes on in the next line. -/
def unescape? : List Char → Option (List Char × Bool)
  | [] => some ([], false)
  | ['\\'] => some ([], true)
  | '\\' :: letter :: rest => do
    let character ← escaped? letter
    let (value, goesOn) ← unescape? rest
    return (character :: value, goesOn)
  | character :: rest => do
    let (value, goesOn) ← unescape? rest
    return (if character = '"' then value else character :: value, goesOn)

/-- The name between quotes and the text behind the bracket that follows it. -/
def readSubsection? (read : List Char) : List Char → Option (List Char × List Char)
  | '"' :: ']' :: rest => some (read, rest)
  | '"' :: _ => none
  | '\x00' :: _ => none
  | '\\' :: character :: rest => readSubsection? (read ++ [character]) rest
  | character :: rest => readSubsection? (read ++ [character]) rest
  | [] => none

/-- The section that stands behind an opening bracket, and the text behind it. -/
def readSection? (text : List Char) : Option (List Char × List Char) :=
  let isSectionChar (character : Char) : Bool := isNameChar character || character = '.'
  let name := lower (text.takeWhile isSectionChar)
  match text.drop name.length with
  | ']' :: rest => if name.isEmpty then none else some (name, rest)
  | first :: rest =>
    if isSpace first then
      match rest.dropWhile isSpace with
      | '"' :: quoted =>
        (readSubsection? [] quoted).map fun (subsection, rest) =>
          (name ++ '.' :: subsection, rest)
      | _ => none
    else none
  | [] => none

/-- The name of a setting in a section. -/
def fullName (sectionName name : List Char) : List Char :=
  if sectionName.isEmpty then lower name else sectionName ++ '.' :: lower name

/-- The setting of a line without its section, or the beginning of one. -/
def readSetting? (sectionName line : List Char) : Option (Setting ⊕ OpenSetting) := do
  let (text, inQuotes) := withoutComment false (line.dropWhile isSpace)
  let name := text.takeWhile isNameChar
  if name.isEmpty then none
  else
    let name := fullName sectionName name
    match (text.dropWhile isNameChar).dropWhile isSpace with
    | [] => return .inl ⟨name, none⟩
    | '=' :: rest =>
      let (value, goesOn) ← unescape? (rest.dropWhile isSpace)
      return if goesOn then .inr ⟨name, value, inQuotes⟩ else .inl ⟨name, some value⟩
    | _ => none

/-- An open setting with one more line. -/
def OpenSetting.goOn? (setting : OpenSetting) (line : List Char) :
    Option (Setting ⊕ OpenSetting) := do
  let (text, inQuotes) := withoutComment setting.inQuotes line
  if text.isEmpty then return .inr { setting with inQuotes := inQuotes }
  else
    let (more, goesOn) ← unescape? text
    let value := setting.value ++ more
    return if goesOn then .inr ⟨setting.name, value, inQuotes⟩
      else .inl ⟨setting.name, some value⟩

/-- The section that a line leads to, and what follows the brackets at its beginning. -/
def splitSection? (sectionName line : List Char) : Option (List Char × List Char) :=
  match line.dropWhile isSpace with
  | '[' :: rest =>
    match readSection? rest with
    | none => none
    | some (sectionName, behind) =>
      if _shorter : behind.length < line.length then splitSection? sectionName behind
      else none
  | rest => some (sectionName, rest)
termination_by line.length

/-- Whether nothing but a comment can stand in a line. -/
def isVacant (line : List Char) : Bool :=
  (line.dropWhile isSpace).head?.all fun first => first = ';' || first = '#'

/-- The settings of lines in a section, given a setting that is open. -/
def ofLines? (sectionName : List Char) (pending : Option OpenSetting) :
    List (List Char) → Option (List Setting)
  | [] => some (pending.toList.map fun setting => ⟨setting.name, some setting.value⟩)
  | line :: rest =>
    match pending with
    | some setting => do
      match ← OpenSetting.goOn? setting line with
      | .inl setting => return setting :: (← ofLines? sectionName none rest)
      | .inr setting => ofLines? sectionName (some setting) rest
    | none => do
      let (sectionName, line) ← splitSection? sectionName line
      if isVacant line then ofLines? sectionName none rest
      else
        match ← readSetting? sectionName line with
        | .inl setting => return setting :: (← ofLines? sectionName none rest)
        | .inr setting => ofLines? sectionName (some setting) rest

def ofText? (text : List Char) : Option (List Setting) :=
  let text := if text.head? = some '\uFEFF' then text.drop 1 else text
  if text.head? = some '\x00' then some [] else ofLines? [] none (Text.linesFrom [] text)

/-- The path of the file that a setting takes in. -/
def includedPath? (setting : Setting) : Option String :=
  if setting.name = "include.path".toList then setting.value.map String.ofList else none

/-- How deep files may take in one another. -/
def deepestInclude : Nat := 10

/-- The settings of the file at a place with those of the files that it takes in; a file that is
not there has none. -/
def ofFile? (tree : FileTree) : Nat → Location → Option (List Setting)
  | depth, place =>
    match content? tree place with
    | none => some []
    | some content =>
      match depth with
      | 0 => none
      | depth + 1 => do
        let settings ← ofText? content
        let parts ← settings.mapM fun setting =>
          match includedPath? setting with
          | some path =>
            match target? tree place.dropLast path with
            | some included => (ofFile? tree depth included).map (setting :: ·)
            | none => some [setting]
          | none => some [setting]
        return parts.flatten

/-- The settings of a work tree with a git directory and a common directory. -/
def settings? (tree : FileTree) (directory common : Location) : Option (List Setting) := do
  let shared ← ofFile? tree deepestInclude (common ++ ["config"])
  let own ← ofFile? tree deepestInclude (directory ++ ["config.worktree"])
  return shared ++ own

/-- The last setting of a name. -/
def find? (name : String) (settings : List Setting) : Option Setting :=
  settings.reverse.find? (·.name = name.toList)

/-- The number that digits of a base begin with, and the text behind them. -/
def readDigits? (base : Nat) (text : List Char) : Option (Nat × List Char) :=
  let isDigit (c : Char) : Bool := (Json.hexValue? c).any (· < base)
  let digits := text.takeWhile isDigit
  if digits.isEmpty then none
  else
    some (digits.foldl (fun value digit => value * base + (Json.hexValue? digit).getD 0) 0,
      text.drop digits.length)

/-- The number that a text begins with, in hexadecimal behind `0x` and in octal behind a zero. -/
def readMagnitude? : List Char → Option (Nat × List Char)
  | '0' :: 'x' :: digits => readDigits? 16 digits
  | '0' :: 'X' :: digits => readDigits? 16 digits
  | '0' :: digits => readDigits? 8 ('0' :: digits)
  | digits => readDigits? 10 digits

/-- The factor that a letter behind a number stands for. -/
def factor? : List Char → Option Nat
  | [] => some 1
  | ['k'] | ['K'] => some 1024
  | ['m'] | ['M'] => some (1024 * 1024)
  | ['g'] | ['G'] => some (1024 * 1024 * 1024)
  | _ => none

/-- The number of 32 bits that a value spells. -/
def number? (value : List Char) : Option Int := do
  let (negative, text) := Decimal.takeSign (value.dropWhile isSpace)
  let (magnitude, rest) ← readMagnitude? text
  let number : Int := magnitude * (← factor? rest)
  let number := if negative then -number else number
  if -2147483648 ≤ number ∧ number ≤ 2147483647 then return number else none

def truth? (setting : Setting) : Option Bool :=
  match setting.value with
  | none => some true
  | some value =>
    let word := String.ofList (lower value)
    if word = "true" || word = "yes" || word = "on" then some true
    else if word = "false" || word = "no" || word = "off" || word.isEmpty then some false
    else (number? value).map (· ≠ 0)

/-- The extensions that a repository may ask for. -/
def knownExtensions : List String :=
  ["noop", "objectformat", "worktreeconfig", "preciousobjects"]

/-- Whether a setting asks for nothing unknown. -/
def isSupported (setting : Setting) : Bool :=
  match Text.after? "extensions.".toList setting.name with
  | none => true
  | some extension =>
    knownExtensions.contains (String.ofList extension) &&
      (String.ofList extension ≠ "objectformat" || setting.value = some "sha1".toList)

/-- Whether the format of a repository is known: extensions count from the first version on. -/
def isKnownFormat (settings : List Setting) : Bool :=
  match find? "core.repositoryformatversion" settings with
  | none => true
  | some setting =>
    match setting.value.bind number? with
    | none => false
    | some version => version ≤ 1 && (version < 1 || settings.all isSupported)

end Configuration

end MemoryKeeper.Git

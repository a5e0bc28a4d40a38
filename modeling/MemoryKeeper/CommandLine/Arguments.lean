import MemoryKeeper.Text.Blank
import MemoryKeeper.Text.Lines

/-!
# Arguments of the program

The words after the program's name are flags and then the words of the command
expression. Flags are read up to the first word that is none; from there on all
words belong to the expression as they are. A lone double hyphen before the
expression ends the flags and is dropped.

The value of the directory flag may be attached with an equals sign or be the
next word, which must not be a flag. Whether it can be used is decided when
the next flag or the expression is reached, or the words end. A flag may occur
once. A word of the expression that names a flag of this program is refused, so
that a late flag is never mistaken for text.
-/

namespace MemoryKeeper.CommandLine

/-- What the arguments ask for. -/
structure Request where
  directory : Option String
  debug : Bool
  quiet : Bool
  compact : Bool
  check : Bool
  words : List String
  deriving DecidableEq, Repr

namespace Request

/-- The request of no arguments at all. -/
def empty : Request := ⟨none, false, false, false, false, []⟩

/-- The expression: the words with single blanks between them, if they are not all blank. -/
def expression? (request : Request) : Option String :=
  let joined := " ".intercalate request.words
  if Text.isBlankText joined then none else some joined

end Request

/-- Why arguments are not a request. -/
inductive Refusal where
  /-- A flag occurs twice. -/
  | repeatedFlag
  /-- A flag stands behind the start of the expression. -/
  | lateFlag (word : String)
  /-- The directory is missing or empty. -/
  | noDirectory
  /-- A value is attached to a flag that has none. -/
  | unwantedValue
  | helpAsked
  | versionAsked
  deriving DecidableEq, Repr

/-- The kinds of refusals. -/
inductive Refusal.Kind where
  | argumentConflict
  | invalidValue
  | tooManyValues
  | displayHelp
  | displayVersion
  deriving DecidableEq, Repr

def Refusal.kind : Refusal → Refusal.Kind
  | .repeatedFlag => .argumentConflict
  | .lateFlag _ => .argumentConflict
  | .noDirectory => .invalidValue
  | .unwantedValue => .tooManyValues
  | .helpAsked => .displayHelp
  | .versionAsked => .displayVersion

/-- What this program says of a refusal itself. -/
def Refusal.message? : Refusal → Option String
  | .lateFlag word => some ("error: flag '" ++ word ++ "' must come before the expression")
  | _ => none

/-- A flag without a value. -/
inductive Switch where
  | debug
  | quiet
  | compact
  | check
  | help
  | version
  deriving DecidableEq, Repr

namespace Switch

def all : List Switch := [.debug, .quiet, .compact, .check, .help, .version]

def name : Switch → String
  | .debug => "debug"
  | .quiet => "quiet"
  | .compact => "compact"
  | .check => "check"
  | .help => "help"
  | .version => "version"

def ofLetter? : Char → Option Switch
  | 'q' => some .quiet
  | 'h' => some .help
  | 'V' => some .version
  | _ => none

def ofName? (text : String) : Option Switch :=
  all.find? (·.name = text)

end Switch

/-- The long name of the flag for a directory. -/
def directoryName : String := "cwd"

/-- What a word before the expression can be. -/
inductive Reading where
  | switches (switches : List Switch)
  | switchWithValue
  | directory
  | directoryWithValue (value : String)
  | word
  deriving DecidableEq, Repr

/-- What a word with two hyphens at its start is, given what follows them. -/
def readLong (text : List Char) : Reading :=
  let (name, value) := Text.cut '=' text
  let name := String.ofList name
  if name = directoryName then
    match value with
    | some value => .directoryWithValue (String.ofList value)
    | none => .directory
  else
    match Switch.ofName? name, value with
    | none, _ => .word
    | some _, some _ => .switchWithValue
    | some switch, none => .switches [switch]

/-- What a word before the expression is. -/
def read (word : String) : Reading :=
  match word.toList with
  | '-' :: '-' :: rest => readLong rest
  | '-' :: letter :: letters =>
    match (letter :: letters).mapM Switch.ofLetter? with
    | some switches => .switches switches
    | none => .word
  | _ => .word

/-- The value of a directory flag that was read and not settled yet. -/
inductive Pending where
  | nothing
  | awaited
  | given (value : String)
  deriving DecidableEq, Repr

/-- The request so far, with the directory flag that is not settled yet. -/
structure State where
  request : Request
  pending : Pending
  deriving DecidableEq, Repr

namespace State

def setDirectory (request : Request) (value : String) : Except Refusal Request :=
  if request.directory.isSome then .error .repeatedFlag
  else if value.isEmpty then .error .noDirectory
  else .ok { request with directory := some value }

def settle (state : State) : Except Refusal Request :=
  match state.pending with
  | .nothing => .ok state.request
  | .awaited => .error .noDirectory
  | .given value => setDirectory state.request value

/-- The request with a switch turned on that was off. -/
def turnOn (request : Request) : Switch → Except Refusal Request
  | .debug => if request.debug then .error .repeatedFlag else .ok { request with debug := true }
  | .quiet => if request.quiet then .error .repeatedFlag else .ok { request with quiet := true }
  | .compact =>
    if request.compact then .error .repeatedFlag else .ok { request with compact := true }
  | .check => if request.check then .error .repeatedFlag else .ok { request with check := true }
  | .help => .error .helpAsked
  | .version => .error .versionAsked

/-- The request with its directory settled and switches turned on. -/
def turnAllOn (state : State) (switches : List Switch) : Except Refusal Request := do
  let request ← state.settle
  switches.foldlM turnOn request

/-- The request of words, given the state that the words before them led to. -/
def readAll (state : State) : List String → Except Refusal Request
  | [] => state.settle
  | word :: rest =>
    if word = "--" then state.settle.map fun request => { request with words := rest }
    else
      match read word with
      | .switchWithValue => .error .unwantedValue
      | .switches switches => do
        let request ← state.turnAllOn switches
        readAll ⟨request, .nothing⟩ rest
      | .directory => do
        let request ← state.settle
        readAll ⟨request, .awaited⟩ rest
      | .directoryWithValue value => do
        let request ← setDirectory (← state.settle) value
        readAll ⟨request, .nothing⟩ rest
      | .word =>
        if state.pending = .awaited then readAll ⟨state.request, .given word⟩ rest
        else state.settle.map fun request => { request with words := word :: rest }

end State

/-- The flags that must not occur in an expression. -/
def declaredFlags : List String :=
  ["--cwd", "--debug", "--quiet", "-q", "--compact", "--check"]

/-- Whether a word names a declared flag, with or without a value. -/
def isDeclaredFlag (word : String) : Bool :=
  declaredFlags.contains (String.ofList (Text.cut '=' word.toList).1)

def readArguments (arguments : List String) : Except Refusal Request := do
  let request ← State.readAll ⟨.empty, .nothing⟩ arguments
  match request.words.find? isDeclaredFlag with
  | some word => .error (.lateFlag word)
  | none => .ok request

end MemoryKeeper.CommandLine

import MemoryKeeper.Git.Error
import MemoryKeeper.Text.Blank
import MemoryKeeper.Text.Quoted

/-!
# Running git

Git is run with an argument vector, never with a command line that something
else would split. Before the arguments of its caller stand settings: paths are
printed as they are, and the identity of the committer may be overridden. Git
must not ask questions on a terminal.

Messages show a command line without the settings, in which an argument that is
empty or holds blanks is quoted.
-/

namespace MemoryKeeper.Git

/-- Who makes a commit. -/
structure Identity where
  name : String
  email : String
  deriving DecidableEq, Repr

/-- How git is run: the program's name, and an identity that overrides its own. -/
structure Settings where
  program : String
  identity : Option Identity
  deriving DecidableEq, Repr

/-- A process to be started. -/
structure Invocation where
  program : String
  arguments : List String
  directory : String
  environment : List (String × String)
  deriving DecidableEq, Repr

namespace Settings

/-- The settings that stand before the arguments. -/
def arguments (settings : Settings) : List String :=
  ["-c", "core.quotepath=off"] ++
    match settings.identity with
    | some identity =>
      ["-c", "user.name=" ++ identity.name, "-c", "user.email=" ++ identity.email]
    | none => []

/-- The process that runs git in a directory. -/
def invocation (settings : Settings) (directory : String) (arguments : List String) :
    Invocation :=
  ⟨settings.program, settings.arguments ++ arguments, directory, [("GIT_TERMINAL_PROMPT", "0")]⟩

def argumentText (argument : String) : String :=
  if argument.isEmpty || argument.toList.any Text.isBlank then Text.quote argument else argument

/-- The command line as messages show it. -/
def commandText (settings : Settings) (arguments : List String) : String :=
  " ".intercalate (settings.program :: arguments.map argumentText)

end Settings

/-- Why a process could not be started. -/
inductive StartFailure where
  | system (error : OsError)
  /-- An argument holds a null character. -/
  | nullCharacter
  deriving DecidableEq, Repr

def StartFailure.message : StartFailure → String
  | .system error => error.message
  | .nullCharacter => "nul byte found in provided data"

namespace Invocation

/-- Whether a part of the command line holds a null character, which ends an argument. -/
def holdsNull (invocation : Invocation) : Bool :=
  (invocation.program :: invocation.arguments).any (·.toList.contains '\x00')

/-- The most bytes that an argument may have. -/
def longestArgument : Nat := 131071

/-- Whether an argument is longer than the system takes. -/
def isTooLong (invocation : Invocation) : Bool :=
  (invocation.program :: invocation.arguments).any (longestArgument < ·.utf8ByteSize)

end Invocation

/-- What a process left behind: its status, absent if it was killed, and its output. -/
structure Completion where
  code : Option Int
  output : String
  complaint : String
  deriving DecidableEq, Repr

/-- The output of git if its status is one of those accepted. -/
def Settings.accept (settings : Settings) (arguments : List String) (accepted : List Int) :
    Except StartFailure Completion → Except GitError Completion
  | .error failure => .error (.spawn (settings.commandText arguments) failure.message)
  | .ok completion =>
    if completion.code.any accepted.contains then .ok completion
    else
      .error (.commandFailed (settings.commandText arguments)
        (Text.trimmed completion.complaint) completion.code)

end MemoryKeeper.Git

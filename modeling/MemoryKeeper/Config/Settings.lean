import MemoryKeeper.Config.Toml
import MemoryKeeper.Files.Failure
import MemoryKeeper.Git.Invocation
import MemoryKeeper.Json.Basic
import MemoryKeeper.Text.Blank

/-!
# Settings

There are settings of a user and settings of a repository. Every setting may be
absent and has a default then. Settings are read from data whose members are all
known and occur once; after that their values are checked.
-/

namespace MemoryKeeper

/-- What is wrong with the value of a setting. -/
inductive SettingProblem where
  | blankProgram
  | blankSubjectStart
  | brokenSubjectStart
  /-- Only one half of an identity is given. -/
  | halfIdentity
  /-- A problem that is known by its wording only. -/
  | reported (message : String)
  deriving DecidableEq, Repr

def SettingProblem.message : SettingProblem → String
  | .blankProgram => "git_binary cannot be empty"
  | .blankSubjectStart => "commit_prefix cannot be empty"
  | .brokenSubjectStart => "commit_prefix must be a single line"
  | .halfIdentity => "author_name and author_email must be set together"
  | .reported message => message

/-- Why the configuration cannot be used. -/
inductive ConfigError where
  | read (path : String) (failure : IoFailure)
  | parse (path : String)
  | invalid (problem : SettingProblem)
  deriving DecidableEq, Repr

/-- What is said of a file that is not a document of settings. -/
def ConfigError.documentComplaint : String :=
  "TOML settings not accepted"

def ConfigError.message : ConfigError → String
  | .read path failure => "failed to read config file '" ++ path ++ "': " ++ failure.message
  | .parse path => "failed to parse config file '" ++ path ++ "': " ++ documentComplaint
  | .invalid problem => "invalid config value: " ++ problem.message

namespace Settings

/-- The members of an object by the names of the settings, if it has no others and each once; of a
list the items stand for the settings in order. -/
def fields? (names : List String) : Json → Option (List (String × Json))
  | .object members =>
    let given := members.map Prod.fst
    if given.all names.contains && given.length = given.eraseDups.length then some members
    else none
  | .array items => if items.length ≤ names.length then some (names.zip items) else none
  | _ => none

/-- A setting that is a text, if it is given. -/
def text? (fields : List (String × Json)) (name : String) : Option (Option String) :=
  match fields.lookup name with
  | none => some none
  | some .null => some none
  | some (.string text) => some (some text)
  | some _ => none

/-- A setting that is a truth value, if it is given. -/
def choice? (fields : List (String × Json)) (name : String) : Option (Option Bool) :=
  match fields.lookup name with
  | none => some none
  | some .null => some none
  | some (.boolean value) => some (some value)
  | some _ => none

/-- A setting as data; an absent one is null. -/
def member (name : String) (value : Option Json) : String × Json :=
  (name, value.getD .null)

/-- A value of a document as data. -/
def dataOf : Toml.Value → Json
  | .string text => .string text
  | .boolean value => .boolean value

def document? (limit : Nat) (text : String) : Option Json :=
  (Toml.read? limit text).map fun entries =>
    .object (entries.map fun (name, value) => (name, dataOf value))

end Settings

/-- The settings of a user. -/
structure UserSettings where
  /-- The git program. -/
  program : Option String
  /-- Whether results are printed in the pretty layout. -/
  pretty : Option Bool
  deriving DecidableEq, Repr

namespace UserSettings

def none : UserSettings := ⟨.none, .none⟩

def names : List String := ["git_binary", "pretty"]

def ofJson? (value : Json) : Option UserSettings := do
  let fields ← Settings.fields? names value
  return ⟨← Settings.text? fields "git_binary", ← Settings.choice? fields "pretty"⟩

def toJson (settings : UserSettings) : Json :=
  .object [Settings.member "git_binary" (settings.program.map .string),
    Settings.member "pretty" (settings.pretty.map .boolean)]

def ofDocument? (text : String) : Option UserSettings :=
  (Settings.document? names.length text).bind ofJson?

/-- The name of the git program must not be blank. -/
def validate (settings : UserSettings) : Except ConfigError Unit :=
  if settings.program.any Text.isBlankText then .error (.invalid .blankProgram) else .ok ()

end UserSettings

/-- The settings of a repository. -/
structure RepositorySettings where
  /-- What the subjects of commits start with. -/
  subjectStart : Option String
  authorName : Option String
  authorEmail : Option String
  deriving DecidableEq, Repr

namespace RepositorySettings

def names : List String := ["commit_prefix", "author_name", "author_email"]

def ofJson? (value : Json) : Option RepositorySettings := do
  let fields ← Settings.fields? names value
  return ⟨← Settings.text? fields "commit_prefix", ← Settings.text? fields "author_name",
    ← Settings.text? fields "author_email"⟩

def toJson (settings : RepositorySettings) : Json :=
  .object [Settings.member "commit_prefix" (settings.subjectStart.map .string),
    Settings.member "author_name" (settings.authorName.map .string),
    Settings.member "author_email" (settings.authorEmail.map .string)]

def ofDocument? (text : String) : Option RepositorySettings :=
  (Settings.document? names.length text).bind ofJson?

/-- Whether a text holds a line break. -/
def isBroken (text : String) : Bool :=
  text.toList.any fun character => character = '\n' || character = '\r'

/-- The start of a subject must be one line that is not blank, and an identity must be whole. -/
def validate (settings : RepositorySettings) : Except ConfigError Unit :=
  if settings.subjectStart.any Text.isBlankText then .error (.invalid .blankSubjectStart)
  else if settings.subjectStart.any isBroken then .error (.invalid .brokenSubjectStart)
  else if settings.authorName.isSome ≠ settings.authorEmail.isSome then
    .error (.invalid .halfIdentity)
  else .ok ()

/-- The identity that the settings name, if they name one. -/
def identity? (settings : RepositorySettings) : Option Git.Identity := do
  return ⟨← settings.authorName, ← settings.authorEmail⟩

end RepositorySettings

end MemoryKeeper

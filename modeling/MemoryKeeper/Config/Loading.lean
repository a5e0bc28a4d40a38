import MemoryKeeper.Config.Settings
import MemoryKeeper.Memory.Storage
import MemoryKeeper.World.Basic

/-!
# Loading the configuration

The settings of a user come from the first file that exists: the one named in
the environment, the one in the directory of configuration files, the one in the
home directory. A file that is there but cannot be used is an error and never
gives way to the next one. The settings of a repository come from its own file.

Neither file's settings can stand in for the other's. Settings that are absent
have defaults.
-/

namespace MemoryKeeper

/-- The settings in force. -/
structure Config where
  user : UserSettings
  /-- The settings of the repository, if it has a file of them. -/
  repository : Option RepositorySettings
  deriving DecidableEq, Repr

namespace Config

def program (config : Config) : String :=
  config.user.program.getD "git"

/-- Whether results are printed in the pretty layout. -/
def pretty (config : Config) : Bool :=
  config.user.pretty.getD true

/-- What the subjects of commits start with. -/
def subjectStart (config : Config) : String :=
  (config.repository.bind RepositorySettings.subjectStart).getD "memory"

section Defaults

variable {config : Config}

/-- The program is the one that the user's settings name, or git where they name none. -/
theorem program_eq_iff {program : String} :
    config.program = program ↔
      config.user.program = some program ∨ config.user.program = none ∧ program = "git" := by
  rw [Config.program, Option.getD_eq_iff, @eq_comm _ "git"]

/-- The layout is the one that the user's settings choose, or the pretty one. -/
theorem pretty_eq_iff {pretty : Bool} :
    config.pretty = pretty ↔
      config.user.pretty = some pretty ∨ config.user.pretty = none ∧ pretty = true := by
  rw [Config.pretty, Option.getD_eq_iff, @eq_comm _ true]

/-- Subjects start as the repository's settings say, or in the standard way where none say it. -/
theorem subjectStart_eq_iff {start : String} :
    config.subjectStart = start ↔
      (∃ settings ∈ config.repository, settings.subjectStart = some start) ∨
        (∀ settings ∈ config.repository, settings.subjectStart = none) ∧ start = "memory" := by
  rw [Config.subjectStart, Option.getD_eq_iff, Option.bind_eq_some_iff, Option.bind_eq_none_iff,
    @eq_comm _ "memory"]
  rfl

end Defaults

/-- The identity that overrides git's own. -/
def identity? (config : Config) : Option Git.Identity :=
  config.repository.bind RepositorySettings.identity?

/-- How git is run. -/
def git (config : Config) : Git.Settings :=
  ⟨config.program, config.identity?⟩

/-- The paths at which the settings of a user are looked for, in order. -/
def candidates (environment : Environment) : List String :=
  environment.configFile.toList ++
    (environment.configHome.map (Path.join · "gitmem/config.toml")).toList ++
    (environment.home.map (Path.join · ".gitmem/config.toml")).toList

/-- The text of a file that a path leads to, if anything is there. -/
def textAt? (view : View) (path : String) : Option (Except IoFailure String) :=
  match view.files.locate view.currentDirectory path with
  | .ok place => some (view.files.readText place)
  | .error _ => none

/-- A warning about the configuration. -/
structure Warning where
  message : String
  path : String
  deriving DecidableEq, Repr

/-- The warnings of a view: the file named in the environment does not exist. -/
def warnings (view : View) : List Warning :=
  match view.environment.configFile with
  | some path =>
    if (textAt? view path).isNone then
      [⟨"GITMEM_CONFIG points at a missing file; falling back", path⟩]
    else []
  | none => []

/-- The settings of a file with a given text. -/
def settingsOf {Kind : Type} (ofDocument? : String → Option Kind)
    (validate : Kind → Except ConfigError Unit) (path : String) :
    Except IoFailure String → Except ConfigError Kind
  | .error failure => .error (.read path failure)
  | .ok text =>
    match ofDocument? text with
    | none => .error (.parse path)
    | some settings => (validate settings).map fun _ => settings

/-- The settings of a user from the first of several paths at which something stands. -/
def userSettings (view : View) : List String → Except ConfigError UserSettings
  | [] => .ok .none
  | path :: others =>
    match textAt? view path with
    | some text => settingsOf UserSettings.ofDocument? UserSettings.validate path text
    | none => userSettings view others

/-- The settings of a repository, if something stands at their path. -/
def repositorySettings (view : View) (storage : Storage) :
    Except ConfigError (Option RepositorySettings) :=
  match textAt? view storage.configPath with
  | some text =>
    (settingsOf RepositorySettings.ofDocument? RepositorySettings.validate storage.configPath
      text).map some
  | none => .ok none

/-- The configuration, with the settings of a repository if one is given. -/
def load (view : View) (storage : Option Storage) : Except ConfigError Config := do
  let user ← userSettings view (candidates view.environment)
  match storage with
  | some storage => return ⟨user, ← repositorySettings view storage⟩
  | none => return ⟨user, none⟩

end Config

end MemoryKeeper

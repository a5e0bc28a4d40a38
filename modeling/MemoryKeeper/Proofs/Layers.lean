import MemoryKeeper.Config.Loading
import MemoryKeeper.Proofs.Expressions

/-!
# Layers of the configuration

The settings of a user are those of the first file among the candidates, and the
settings of a repository are those of its own file. Loading succeeds exactly if
each of these files that exists can be read, parsed and used; a file that cannot
be used never gives way to a later candidate or to the defaults.

So nothing else has a say. What runs git and how results are printed is a matter
of the user's first file alone, and what commits are called and who makes them
is one of the repository's file alone.
-/

namespace MemoryKeeper

/-- Whether a text holds a character that is no blank. -/
def Text.HasInk (text : String) : Prop :=
  ∃ character ∈ text.toList, isBlank character = false

theorem Text.not_isBlankText_iff {text : String} : isBlankText text = false ↔ HasInk text := by
  rw [isBlankText, List.all_eq_false, HasInk]
  simp only [Bool.not_eq_true]

theorem Except.map_eq_ok_iff {Failure Value Other : Type} {result : Except Failure Value}
    {change : Value → Other} {other : Other} :
    result.map change = .ok other ↔ ∃ value, result = .ok value ∧ change value = other := by
  rcases result with failure | value <;> simp [Except.map]

/-- Whether what was read at a path is a document of settings that can be used. -/
def Settings.AreIn {Kind : Type} (ofDocument? : String → Option Kind) (AreUsable : Kind → Prop)
    (settings : Kind) (read : Except IoFailure String) : Prop :=
  ∃ document, read = .ok document ∧ ofDocument? document = some settings ∧ AreUsable settings

theorem Settings.AreIn.unique {Kind : Type} {ofDocument? : String → Option Kind}
    {AreUsable : Kind → Prop} {settings other : Kind} {read : Except IoFailure String}
    (areIn : AreIn ofDocument? AreUsable settings read)
    (otherAreIn : AreIn ofDocument? AreUsable other read) : settings = other := by
  rcases areIn with ⟨document, rfl, parsed, -⟩
  rcases otherAreIn with ⟨_, same, otherParsed, -⟩
  rw [← Except.ok.inj same, parsed] at otherParsed
  exact Option.some.inj otherParsed

namespace UserSettings

/-- Whether settings can be used: the program is not named by blanks alone. -/
def AreUsable (settings : UserSettings) : Prop :=
  ∀ program ∈ settings.program, Text.HasInk program

/-- Whether what was read at a path is a document of a user's settings that can be used. -/
abbrev AreIn : UserSettings → Except IoFailure String → Prop :=
  Settings.AreIn ofDocument? AreUsable

theorem validate_eq_ok_iff {settings : UserSettings} :
    settings.validate = .ok () ↔ settings.AreUsable := by
  rcases settings with ⟨_ | program, pretty⟩
  · simp [validate, AreUsable]
  · rw [AreUsable]
    simp only [Option.mem_def, Option.some.injEq, forall_eq', ← Text.not_isBlankText_iff]
    rcases blank : Text.isBlankText program with _ | _ <;> simp [validate, blank]

end UserSettings

namespace RepositorySettings

/-- Whether settings can be used: the start of subjects is one line that is not blank, and an
identity has both its halves. -/
structure AreUsable (settings : RepositorySettings) : Prop where
  ink : ∀ start ∈ settings.subjectStart, Text.HasInk start
  oneLine : ∀ start ∈ settings.subjectStart, '\n' ∉ start.toList ∧ '\r' ∉ start.toList
  wholeIdentity : settings.authorName.isSome ↔ settings.authorEmail.isSome

/-- Whether what was read at a path is a document of a repository's settings that can be used. -/
abbrev AreIn : RepositorySettings → Except IoFailure String → Prop :=
  Settings.AreIn ofDocument? AreUsable

theorem notMem_of_not_isBroken {text : String} (whole : isBroken text = false) :
    '\n' ∉ text.toList ∧ '\r' ∉ text.toList := by
  rw [isBroken, List.any_eq_false] at whole
  constructor
  · intro lineFeed
    exact whole _ lineFeed (by decide)
  · intro carriageReturn
    exact whole _ carriageReturn (by decide)

theorem isBroken_eq_false_iff {text : String} :
    isBroken text = false ↔ '\n' ∉ text.toList ∧ '\r' ∉ text.toList := by
  refine ⟨notMem_of_not_isBroken, ?_⟩
  rintro ⟨noFeed, noReturn⟩
  simp only [isBroken, List.any_eq_false, Bool.or_eq_true, decide_eq_true_eq, not_or]
  intro character present
  exact ⟨fun isFeed => noFeed (isFeed ▸ present), fun isReturn => noReturn (isReturn ▸ present)⟩

theorem validate_eq_ok_iff {settings : RepositorySettings} :
    settings.validate = .ok () ↔ settings.AreUsable := by
  have blank : settings.subjectStart.any Text.isBlankText = false ↔
      ∀ start ∈ settings.subjectStart, Text.HasInk start := by
    rcases settings.subjectStart with _ | start <;> simp [Text.not_isBlankText_iff]
  have broken : settings.subjectStart.any isBroken = false ↔
      ∀ start ∈ settings.subjectStart, '\n' ∉ start.toList ∧ '\r' ∉ start.toList := by
    rcases settings.subjectStart with _ | start <;> simp [isBroken_eq_false_iff]
  have guards : settings.validate = .ok () ↔ settings.subjectStart.any Text.isBlankText = false ∧
      settings.subjectStart.any isBroken = false ∧
      settings.authorName.isSome = settings.authorEmail.isSome := by
    rw [validate]
    repeat' split
    all_goals simp_all
  rw [guards, blank, broken, Bool.eq_iff_iff]
  constructor
  · rintro ⟨ink, oneLine, wholeIdentity⟩
    exact ⟨ink, oneLine, wholeIdentity⟩
  · rintro ⟨ink, oneLine, wholeIdentity⟩
    exact ⟨ink, oneLine, wholeIdentity⟩

end RepositorySettings

namespace Config

/-- Whether a path is the first of several at which something stands, with what reading it gives. -/
def IsFirst (view : View) (paths : List String) (path : String)
    (read : Except IoFailure String) : Prop :=
  ∃ before after, paths = before ++ path :: after ∧
    (∀ earlier ∈ before, textAt? view earlier = none) ∧ textAt? view path = some read

/-- Whether something stands at the path of a repository's settings, with what reading it gives. -/
def StandsInRepository (view : View) (storage : Option Storage)
    (read : Except IoFailure String) : Prop :=
  ∃ repository ∈ storage, textAt? view repository.configPath = some read

/-- The settings of a user's first file, or none if there is no file. -/
inductive UserLayer (view : View) : UserSettings → Prop where
  | file {path : String} {read : Except IoFailure String} {settings : UserSettings}
      (first : IsFirst view (candidates view.environment) path read)
      (areIn : settings.AreIn read) : UserLayer view settings
  | absent (nothing : ∀ path ∈ candidates view.environment, textAt? view path = none) :
      UserLayer view .none

/-- The settings of a repository's file, if there is a repository that has one. -/
inductive RepositoryLayer (view : View) (storage : Option Storage) :
    Option RepositorySettings → Prop where
  | file {read : Except IoFailure String} {settings : RepositorySettings}
      (stands : StandsInRepository view storage read) (areIn : settings.AreIn read) :
      RepositoryLayer view storage (some settings)
  | absent (nothing : ∀ read, ¬StandsInRepository view storage read) :
      RepositoryLayer view storage none

theorem UserLayer.areUsable {view : View} {settings : UserSettings}
    (layer : UserLayer view settings) : settings.AreUsable := by
  cases layer with
  | file first areIn =>
      rcases areIn with ⟨document, -, -, usable⟩
      exact usable
  | absent nothing =>
      intro program named
      cases named

theorem RepositoryLayer.areUsable {view : View} {storage : Option Storage}
    {repository : Option RepositorySettings} (layer : RepositoryLayer view storage repository) :
    ∀ settings ∈ repository, settings.AreUsable := by
  cases layer with
  | file stands areIn =>
      rintro settings ⟨⟩
      rcases areIn with ⟨document, -, -, usable⟩
      exact usable
  | absent nothing =>
      rintro settings ⟨⟩

theorem settingsOf_eq_ok_iff {Kind : Type} {ofDocument? : String → Option Kind}
    {validate : Kind → Except ConfigError Unit} {path : String} {read : Except IoFailure String}
    {settings : Kind} :
    settingsOf ofDocument? validate path read = .ok settings ↔
      ∃ document, read = .ok document ∧ ofDocument? document = some settings ∧
        validate settings = .ok () := by
  rcases read with failure | document
  · simp [settingsOf]
  · rcases parsed : ofDocument? document with _ | found
    · simp [settingsOf, parsed]
    · simp only [settingsOf, parsed, Except.ok.injEq, exists_eq_left', Option.some.injEq]
      rcases checked : validate found with failure | _
      · simp only [Except.map, reduceCtorEq, false_iff, not_and]
        rintro rfl
        simp [checked]
      · simp only [Except.map, Except.ok.injEq]
        constructor
        · rintro rfl
          exact ⟨rfl, checked⟩
        · exact And.left

section User

variable {view : View} {paths : List String} {path : String} {read : Except IoFailure String}
  {settings : UserSettings}

theorem userSettings_of_some {paths : List String} (found : textAt? view path = some read) :
    userSettings view (path :: paths) =
      settingsOf UserSettings.ofDocument? UserSettings.validate path read := by
  -- `rw [userSettings]` would first derive an equation for each case, which takes long
  rw [userSettings.eq_def]
  simp only [found]

theorem userSettings_of_none (nothing : textAt? view path = none) (paths : List String) :
    userSettings view (path :: paths) = userSettings view paths := by
  rw [userSettings.eq_def]
  simp only [nothing]

theorem userSettings_of_isFirst (first : IsFirst view paths path read) :
    userSettings view paths =
      settingsOf UserSettings.ofDocument? UserSettings.validate path read := by
  rcases first with ⟨before, after, rfl, nothing, found⟩
  induction before with
  | nil => rw [List.nil_append, userSettings_of_some found]
  | cons earlier before ih =>
      have skipped := nothing earlier List.mem_cons_self
      rw [List.cons_append, userSettings_of_none skipped]
      exact ih fun other present => nothing other (List.mem_cons_of_mem _ present)

theorem isFirst_or_nothing (view : View) (paths : List String) :
    (∃ path read, IsFirst view paths path read) ∨
      ((∀ path ∈ paths, textAt? view path = none) ∧ userSettings view paths = .ok .none) := by
  induction paths with
  | nil =>
      right
      exact ⟨by simp, rfl⟩
  | cons head paths ih =>
      rcases found : textAt? view head with _ | read
      · rcases ih with ⟨path, read, before, after, shape, nothing, there⟩ | ⟨nothing, default⟩
        · rw [shape, ← List.cons_append]
          refine .inl ⟨path, read, head :: before, after, rfl, ?_, there⟩
          rw [List.forall_mem_cons]
          exact ⟨found, nothing⟩
        · right
          refine ⟨List.forall_mem_cons.mpr ⟨found, nothing⟩, ?_⟩
          rwa [userSettings_of_none found]
      · exact .inl ⟨head, read, [], paths, rfl, by simp, found⟩

theorem not_isFirst_of_nothing (nothing : ∀ path ∈ paths, textAt? view path = none) :
    ¬IsFirst view paths path read := by
  rintro ⟨before, after, rfl, -, there⟩
  rw [nothing path (by simp)] at there
  cases there

theorem areIn_of_isFirst (first : IsFirst view paths path read)
    (loaded : userSettings view paths = .ok settings) : settings.AreIn read := by
  rw [userSettings_of_isFirst first, settingsOf_eq_ok_iff] at loaded
  rcases loaded with ⟨document, isText, parsed, valid⟩
  exact ⟨document, isText, parsed, UserSettings.validate_eq_ok_iff.mp valid⟩

/-- The settings of a user come from the first file, or they are none if there is no file. -/
theorem userSettings_eq_ok_iff :
    userSettings view paths = .ok settings ↔
      (∃ path read, IsFirst view paths path read ∧ settings.AreIn read) ∨
        (∀ path ∈ paths, textAt? view path = none) ∧ settings = .none := by
  constructor
  · intro loaded
    rcases isFirst_or_nothing view paths with ⟨path, read, first⟩ | ⟨nothing, default⟩
    · exact .inl ⟨path, read, first, areIn_of_isFirst first loaded⟩
    · rw [default] at loaded
      exact .inr ⟨nothing, (Except.ok.inj loaded).symm⟩
  · rintro (⟨path, read, first, document, isText, parsed, usable⟩ | ⟨nothing, rfl⟩)
    · rw [userSettings_of_isFirst first, settingsOf_eq_ok_iff]
      exact ⟨document, isText, parsed, UserSettings.validate_eq_ok_iff.mpr usable⟩
    · rcases isFirst_or_nothing view paths with ⟨path, read, first⟩ | ⟨-, default⟩
      · exact absurd first (not_isFirst_of_nothing nothing)
      · exact default

/-- Candidates behind one at which something stands are never looked at. -/
theorem userSettings_congr {other : View} {before after behind : List String}
    (same : ∀ earlier ∈ before ++ [path], textAt? other earlier = textAt? view earlier)
    (there : (textAt? view path).isSome) :
    userSettings other (before ++ path :: behind) =
      userSettings view (before ++ path :: after) := by
  induction before with
  | nil =>
      rcases Option.isSome_iff_exists.mp there with ⟨read, found⟩
      have foundToo : textAt? other path = some read := (same path (by simp)).trans found
      rw [List.nil_append, List.nil_append, userSettings_of_some found,
        userSettings_of_some foundToo]
  | cons earlier before ih =>
      have here := same earlier (by simp)
      have later := ih fun found present => same found (List.mem_cons_of_mem _ present)
      rw [List.cons_append, List.cons_append]
      rcases found : textAt? view earlier with _ | read
      · rw [userSettings_of_none found, userSettings_of_none (here.trans found), later]
      · rw [userSettings_of_some found, userSettings_of_some (here.trans found)]

end User

section Repository

variable {view : View} {storage : Option Storage} {read : Except IoFailure String}
  {settings : Option RepositorySettings}

/-- The settings of the repository that a configuration is loaded for, if it is loaded for one. -/
def settingsFor (view : View) (storage : Option Storage) :
    Except ConfigError (Option RepositorySettings) :=
  storage.elim (.ok none) (repositorySettings view)

theorem repositorySettings_eq (view : View) (repository : Storage) :
    repositorySettings view repository =
      (textAt? view repository.configPath).elim (.ok none) fun read =>
        (settingsOf RepositorySettings.ofDocument? RepositorySettings.validate
          repository.configPath read).map some := by
  -- The path stays closed: what it is joined of does not matter.
  unfold repositorySettings
  generalize repository.configPath = path
  rcases textAt? view path with _ | read <;> rfl

theorem textAt?_withEnvironment (environment : Environment) (path : String) :
    textAt? { view with environment := environment } path = textAt? view path := by
  unfold textAt?
  rfl

/-- The environment has no say in what stands in a repository. -/
theorem standsInRepository_withEnvironment (environment : Environment) :
    StandsInRepository { view with environment := environment } storage read ↔
      StandsInRepository view storage read := by
  simp only [StandsInRepository, textAt?_withEnvironment]

theorem settingsFor_of_absent (absent : ∀ read, ¬StandsInRepository view storage read) :
    settingsFor view storage = .ok none := by
  rcases storage with _ | repository
  · rfl
  · have nothing : textAt? view repository.configPath = none := by
      rw [Option.eq_none_iff_forall_ne_some]
      intro read found
      exact absent read ⟨repository, rfl, found⟩
    rw [settingsFor, Option.elim_some, repositorySettings_eq, nothing, Option.elim_none]

theorem settingsFor_of_stands (stands : StandsInRepository view storage read) :
    ∃ path, settingsFor view storage =
      (settingsOf RepositorySettings.ofDocument? RepositorySettings.validate path read).map
        some := by
  rcases stands with ⟨repository, isGiven, found⟩
  refine ⟨repository.configPath, ?_⟩
  rw [settingsFor, Option.mem_def.mp isGiven, Option.elim_some, repositorySettings_eq, found,
    Option.elim_some]

/-- The settings of a repository are those that its file holds. -/
theorem settingsFor_eq_ok_iff_of_stands (stands : StandsInRepository view storage read) :
    settingsFor view storage = .ok settings ↔
      ∃ found : RepositorySettings, found.AreIn read ∧ some found = settings := by
  rcases settingsFor_of_stands stands with ⟨path, loaded⟩
  simp only [loaded, Except.map_eq_ok_iff, settingsOf_eq_ok_iff,
    RepositorySettings.validate_eq_ok_iff, Settings.AreIn]

end Repository

section Load

variable {view : View} {storage : Option Storage} {config : Config}

theorem load_eq (view : View) (storage : Option Storage) :
    load view storage = do
      let user ← userSettings view (candidates view.environment)
      let repository ← settingsFor view storage
      return ⟨user, repository⟩ := by
  unfold load settingsFor
  -- Both layers stay closed: how they are read does not matter.
  generalize userSettings view (candidates view.environment) = user
  rcases storage with _ | repository
  · rfl
  · rw [Option.elim_some]

theorem load_eq_ok_iff :
    load view storage = .ok config ↔
      userSettings view (candidates view.environment) = .ok config.user ∧
        settingsFor view storage = .ok config.repository := by
  rcases config with ⟨user, repository⟩
  simp only [load_eq, Except.bind_eq_ok_iff, pure, Except.pure, Except.ok.injEq, mk.injEq]
  constructor
  · rintro ⟨_, userLoaded, _, repositoryLoaded, rfl, rfl⟩
    exact ⟨userLoaded, repositoryLoaded⟩
  · rintro ⟨userLoaded, repositoryLoaded⟩
    exact ⟨_, userLoaded, _, repositoryLoaded, rfl, rfl⟩

theorem userLayer_iff {settings : UserSettings} :
    userSettings view (candidates view.environment) = .ok settings ↔
      UserLayer view settings := by
  rw [userSettings_eq_ok_iff]
  constructor
  · rintro (⟨path, read, first, areIn⟩ | ⟨nothing, default⟩)
    · exact .file first areIn
    · rw [default]
      exact .absent nothing
  · intro layer
    cases layer with
    | file first areIn => exact .inl ⟨_, _, first, areIn⟩
    | absent nothing => exact .inr ⟨nothing, rfl⟩

theorem repositoryLayer_iff {settings : Option RepositorySettings} :
    settingsFor view storage = .ok settings ↔ RepositoryLayer view storage settings := by
  constructor
  · intro loaded
    by_cases stands : ∃ read, StandsInRepository view storage read
    · rcases stands with ⟨read, stands⟩
      rcases (settingsFor_eq_ok_iff_of_stands stands).mp loaded with ⟨found, areIn, rfl⟩
      exact .file stands areIn
    · have absent : ∀ read, ¬StandsInRepository view storage read := not_exists.mp stands
      rw [settingsFor_of_absent absent] at loaded
      rw [← Except.ok.inj loaded]
      exact .absent absent
  · intro layer
    cases layer with
    | file stands areIn => exact (settingsFor_eq_ok_iff_of_stands stands).mpr ⟨_, areIn, rfl⟩
    | absent absent => exact settingsFor_of_absent absent

/-- What is loaded are the settings of both layers. -/
theorem load_eq_ok_iff_layers :
    load view storage = .ok config ↔
      UserLayer view config.user ∧ RepositoryLayer view storage config.repository := by
  rw [load_eq_ok_iff, userLayer_iff, repositoryLayer_iff]

theorem exists_load_eq_ok_iff :
    (∃ config, load view storage = .ok config) ↔
      (∀ path read, IsFirst view (candidates view.environment) path read →
        ∃ settings : UserSettings, settings.AreIn read) ∧
      ∀ read, StandsInRepository view storage read →
        ∃ settings : RepositorySettings, settings.AreIn read := by
  constructor
  · rintro ⟨config, loaded⟩
    rcases load_eq_ok_iff.mp loaded with ⟨userLoaded, repositoryLoaded⟩
    constructor
    · intro path read first
      exact ⟨config.user, areIn_of_isFirst first userLoaded⟩
    · intro read stands
      rcases (settingsFor_eq_ok_iff_of_stands stands).mp repositoryLoaded with ⟨found, areIn, -⟩
      exact ⟨found, areIn⟩
  · rintro ⟨usableFirst, usableRepository⟩
    have user : ∃ settings, UserLayer view settings := by
      rcases isFirst_or_nothing view (candidates view.environment) with
        ⟨path, read, first⟩ | ⟨nothing, -⟩
      · rcases usableFirst path read first with ⟨settings, areIn⟩
        exact ⟨settings, .file first areIn⟩
      · exact ⟨.none, .absent nothing⟩
    have repository : ∃ settings, RepositoryLayer view storage settings := by
      by_cases stands : ∃ read, StandsInRepository view storage read
      · rcases stands with ⟨read, stands⟩
        rcases usableRepository read stands with ⟨settings, areIn⟩
        exact ⟨some settings, .file stands areIn⟩
      · exact ⟨none, .absent (not_exists.mp stands)⟩
    rcases user, repository with ⟨⟨user, userLayer⟩, ⟨repository, repositoryLayer⟩⟩
    exact ⟨⟨user, repository⟩, load_eq_ok_iff_layers.mpr ⟨userLayer, repositoryLayer⟩⟩

end Load

section Two

variable {view other : View} {storage otherStorage : Option Storage} {config otherConfig : Config}

theorem user_eq_of_same_first (loaded : load view storage = .ok config)
    (otherLoaded : load other otherStorage = .ok otherConfig)
    (same : ∀ read, (∃ path, IsFirst view (candidates view.environment) path read) ↔
      ∃ path, IsFirst other (candidates other.environment) path read) :
    otherConfig.user = config.user := by
  rcases load_eq_ok_iff.mp otherLoaded with ⟨otherUser, -⟩
  rcases isFirst_or_nothing view (candidates view.environment) with
    ⟨path, read, first⟩ | ⟨nothing, default⟩
  · rcases (same read).mp ⟨path, first⟩ with ⟨otherPath, otherFirst⟩
    exact (areIn_of_isFirst otherFirst otherUser).unique
      (areIn_of_isFirst first (load_eq_ok_iff.mp loaded).1)
  · rw [(load_eq_ok_iff.mp loaded).1, Except.ok.injEq] at default
    rcases isFirst_or_nothing other (candidates other.environment) with
      ⟨path, read, first⟩ | ⟨-, otherDefault⟩
    · rcases (same read).mpr ⟨path, first⟩ with ⟨found, isFirst⟩
      exact absurd isFirst (not_isFirst_of_nothing nothing)
    · rw [otherUser, Except.ok.injEq] at otherDefault
      rw [default, otherDefault]

theorem repository_eq_of_same_file (loaded : load view storage = .ok config)
    (otherLoaded : load other otherStorage = .ok otherConfig)
    (same : ∀ read, StandsInRepository view storage read ↔
      StandsInRepository other otherStorage read) :
    otherConfig.repository = config.repository := by
  have repository := (load_eq_ok_iff.mp loaded).2
  have otherRepository := (load_eq_ok_iff.mp otherLoaded).2
  by_cases stands : ∃ read, StandsInRepository view storage read
  · rcases stands with ⟨read, stands⟩
    rcases (settingsFor_eq_ok_iff_of_stands stands).mp repository with ⟨found, areIn, here⟩
    rcases (settingsFor_eq_ok_iff_of_stands ((same read).mp stands)).mp otherRepository with
      ⟨otherFound, otherAreIn, there⟩
    rw [← here, ← there, otherAreIn.unique areIn]
  · have absent := not_exists.mp stands
    rw [settingsFor_of_absent absent, Except.ok.injEq] at repository
    rw [settingsFor_of_absent fun read => mt (same read).mpr (absent read),
      Except.ok.injEq] at otherRepository
    rw [← repository, ← otherRepository]

/-- What is loaded depends on the candidates up to the first file and on the repository's file. -/
theorem load_congr {path : String} {before after behind : List String}
    (given : candidates view.environment = before ++ path :: after)
    (otherGiven : candidates other.environment = before ++ path :: behind)
    (same : ∀ earlier ∈ before ++ [path], textAt? other earlier = textAt? view earlier)
    (there : (textAt? view path).isSome)
    (sameRepository : ∀ repository ∈ storage,
      textAt? other repository.configPath = textAt? view repository.configPath) :
    load other storage = load view storage := by
  have user := @userSettings_congr view path other before after behind same there
  have repository : settingsFor other storage = settingsFor view storage := by
    rcases storage with _ | repository
    · rw [settingsFor, settingsFor, Option.elim_none, Option.elim_none]
    · rw [settingsFor, settingsFor, Option.elim_some, Option.elim_some, repositorySettings_eq,
        repositorySettings_eq, sameRepository repository rfl]
  rw [load_eq, load_eq, given, otherGiven, user, repository]

end Two

section Values

variable {view : View} {storage : Option Storage} {config : Config}

theorem hasInk_program (loaded : load view storage = .ok config) :
    Text.HasInk config.program := by
  have usable := (load_eq_ok_iff_layers.mp loaded).1.areUsable
  rcases program_eq_iff.mp rfl with named | ⟨-, isGit⟩
  · exact usable _ named
  · rw [isGit]
    exact ⟨'g', by decide, by decide⟩

theorem subjectStart_of_load (loaded : load view storage = .ok config) :
    Text.HasInk config.subjectStart ∧ '\n' ∉ config.subjectStart.toList ∧
      '\r' ∉ config.subjectStart.toList := by
  rcases subjectStart_eq_iff.mp rfl with ⟨settings, given, named⟩ | ⟨-, isStandard⟩
  · have usable := (load_eq_ok_iff_layers.mp loaded).2.areUsable settings given
    exact ⟨usable.ink _ named, usable.oneLine _ named⟩
  · rw [isStandard]
    exact ⟨⟨'m', by decide, by decide⟩, by decide, by decide⟩

theorem identity?_eq_some_iff {identity : Git.Identity} :
    config.identity? = some identity ↔
      ∃ settings ∈ config.repository, settings.authorName = some identity.name ∧
        settings.authorEmail = some identity.email := by
  rw [identity?]
  rcases config.repository with _ | ⟨subjectStart, name, email⟩
  · simp
  · rcases identity with ⟨givenName, givenEmail⟩
    rcases name with _ | name <;> rcases email with _ | email <;>
      simp [RepositorySettings.identity?]

end Values

/-- Loading succeeds exactly if the first file among the candidates and the repository's file, as
far as they exist, can be read, parsed and used, and then it gives the settings of these two files.
Candidates behind the first file change nothing, not even a failure. Of two configurations that are
loaded, the values of the user are the same if the first files hold the same, and the values of the
repository if its files do. The program and the start of subjects are never blank, the latter is
one line, and an identity is set if both its halves are, which are never set alone. -/
theorem load_keeps_layers_apart (view : View) (storage : Option Storage) :
    ((∃ config, load view storage = .ok config) ↔
        (∀ path read, IsFirst view (candidates view.environment) path read →
          ∃ settings : UserSettings, settings.AreIn read) ∧
        ∀ read, StandsInRepository view storage read →
          ∃ settings : RepositorySettings, settings.AreIn read) ∧
      (∀ config, load view storage = .ok config ↔
        UserLayer view config.user ∧ RepositoryLayer view storage config.repository) ∧
      (∀ other path before after behind,
        candidates view.environment = before ++ path :: after →
        candidates other.environment = before ++ path :: behind →
        (∀ earlier ∈ before ++ [path], textAt? other earlier = textAt? view earlier) →
        (textAt? view path).isSome →
        (∀ repository ∈ storage,
          textAt? other repository.configPath = textAt? view repository.configPath) →
        load other storage = load view storage) ∧
      (∀ config other otherStorage otherConfig,
        load view storage = .ok config → load other otherStorage = .ok otherConfig →
        ((∀ read, (∃ path, IsFirst view (candidates view.environment) path read) ↔
            ∃ path, IsFirst other (candidates other.environment) path read) →
          otherConfig.program = config.program ∧ otherConfig.pretty = config.pretty) ∧
        ((∀ read, StandsInRepository view storage read ↔
            StandsInRepository other otherStorage read) →
          otherConfig.subjectStart = config.subjectStart ∧
            otherConfig.identity? = config.identity?)) ∧
      ∀ config, load view storage = .ok config →
        Text.HasInk config.program ∧
        (Text.HasInk config.subjectStart ∧ '\n' ∉ config.subjectStart.toList ∧
          '\r' ∉ config.subjectStart.toList) ∧
        (∀ identity, config.identity? = some identity ↔
          ∃ settings ∈ config.repository, settings.authorName = some identity.name ∧
            settings.authorEmail = some identity.email) ∧
        ∀ settings ∈ config.repository,
          (settings.authorName.isSome ↔ settings.authorEmail.isSome) := by
  refine ⟨exists_load_eq_ok_iff, fun _ => load_eq_ok_iff_layers, ?_, ?_, ?_⟩
  · intro other path before after behind given otherGiven same there sameRepository
    exact load_congr given otherGiven same there sameRepository
  · intro config other otherStorage otherConfig loaded otherLoaded
    constructor
    · intro same
      have user := user_eq_of_same_first loaded otherLoaded same
      rw [program_eq_iff, pretty_eq_iff, user]
      exact ⟨program_eq_iff.mp rfl, pretty_eq_iff.mp rfl⟩
    · intro same
      have repository := repository_eq_of_same_file loaded otherLoaded same
      rw [subjectStart_eq_iff, identity?, identity?, repository]
      exact ⟨subjectStart_eq_iff.mp rfl, rfl⟩
  · intro config loaded
    refine ⟨hasInk_program loaded, subjectStart_of_load loaded, fun _ => identity?_eq_some_iff, ?_⟩
    intro settings given
    exact ((load_eq_ok_iff_layers.mp loaded).2.areUsable settings given).wholeIdentity

/-- The first candidate is missing, the second is used, and the third, which could not be used, can
be exchanged for one that names another program. Without a repository the values of the user stay,
and without an environment those of the repository. -/
theorem load_keeps_layers_apart_of_exchanged :
    let file (text : String) : FileTree := .file (Text.encode text) none
    let tree (third : String) : FileTree := .directory [
      ("x", .directory [("gitmem", .directory [("config.toml", file "pretty = false")])]),
      ("h", .directory [(".gitmem", .directory [("config.toml", file third)])]),
      ("r", .directory [("gitmem", .directory [("config.toml", file "commit_prefix = 'notes'")])])]
    let view (third : String) : View :=
      ⟨tree third, .epoch, ⟨some "/missing", some "/x", some "/h"⟩, "/"⟩
    let bare : View := { view "colour = 1" with environment := ⟨none, none, none⟩ }
    let storage : Option Storage := some ⟨"/r", "/w"⟩
    let config : Config := ⟨⟨none, some false⟩, some ⟨some "notes", none, none⟩⟩
    load (view "colour = 1") storage = .ok config ∧
      load (view "git_binary = '/opt/git'") storage = .ok config ∧
      (∃ other, load (view "colour = 1") none = .ok other ∧ other.pretty = config.pretty) ∧
      (∃ other, load bare storage = .ok other ∧ other.subjectStart = config.subjectStart) ∧
      Text.HasInk config.program := by
  intro file tree view bare storage config
  have laws := load_keeps_layers_apart (view "colour = 1") storage
  have loaded : load (view "colour = 1") storage = .ok config := by decide +kernel
  have same : load (view "git_binary = '/opt/git'") storage = load (view "colour = 1") storage := by
    apply laws.2.2.1 _ "/x/gitmem/config.toml" ["/missing"] ["/h/.gitmem/config.toml"]
      ["/h/.gitmem/config.toml"]
    · decide +kernel
    · decide +kernel
    · decide +kernel
    · decide +kernel
    · decide +kernel
  have alone : load (view "colour = 1") none = .ok ⟨config.user, none⟩ := by decide +kernel
  have unset : load bare storage = .ok ⟨.none, config.repository⟩ := by decide +kernel
  have samePretty := (laws.2.2.2.1 config _ none _ loaded alone).1 fun _ => Iff.rfl
  have sameStart := (laws.2.2.2.1 config bare storage _ loaded unset).2
    fun _ => (standsInRepository_withEnvironment _).symm
  exact ⟨loaded, same.trans loaded, ⟨_, alone, samePretty.2⟩, ⟨_, unset, sameStart.1⟩,
    (laws.2.2.2.2 config loaded).1⟩

end Config

end MemoryKeeper

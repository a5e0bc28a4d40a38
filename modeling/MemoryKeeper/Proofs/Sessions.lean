import MemoryKeeper.Execution.Session
import MemoryKeeper.Proofs.Writes

/-!
# What git and the lock leave alone

Whatever git is, some of its calls may be known to leave the files in a region
alone. A task that is made of such calls leaves them alone as well, and so does
the lock, whose file is no memory's and no draft's. What memories there are is
read off the files at their places, so it does not change with anything else.
-/

namespace MemoryKeeper

open MemoryKeeper.Path (Location)

namespace Git

/-- Git as a world may hold it. -/
abbrev Behavior := List Exchange → Invocation → FileTree → Reply

/-- Git whose calls of a certain kind change no file in a region, and make no directory there. -/
structure Spares (git : Behavior) (calls : Invocation → Prop) (region : Location → Prop) :
    Prop where
  files : ∀ exchanges invocation found place, calls invocation → region place →
    (git exchanges invocation found).files.fileAt? place = found.fileAt? place
  directories : ∀ exchanges invocation found place, calls invocation → region place →
    (git exchanges invocation found).files.item? place = some .directory →
    found.item? place = some .directory

theorem Spares.mono {git : Behavior} {calls fewer : Invocation → Prop}
    {region : Location → Prop} (sparing : Spares git calls region)
    (among : ∀ invocation, fewer invocation → calls invocation) : Spares git fewer region := by
  constructor
  · intro exchanges invocation found place called
    exact sparing.files exchanges invocation found place (among invocation called)
  · intro exchanges invocation found place called
    exact sparing.directories exchanges invocation found place (among invocation called)

/-- Git that always succeeds and changes nothing. -/
def idle : Behavior :=
  fun _ _ found => ⟨some 0, .empty, .empty, found⟩

theorem spares_idle (calls : Invocation → Prop) (region : Location → Prop) :
    Spares idle calls region :=
  ⟨fun _ _ _ _ _ _ => rfl, fun _ _ _ _ _ _ present => present⟩

end Git

namespace World

/-- A git directory whose current commit is packed. -/
def gitDirectory : FileTree :=
  .directory
    [("HEAD", .file (Text.encode (String.ofList (List.replicate Git.identifierLength '1'))) none),
      ("objects", .directory [("pack", .directory [("pack.idx", .file .empty none)])])]

/-- A world with a repository in a directory of the root, other entries of that directory, and a
git. -/
def plain (entries : List (String × FileTree)) (git : Git.Behavior) : World where
  files := .directory [("r", .directory ((".git", gitDirectory) :: entries))]
  now := .epoch
  environment := ⟨none, none, none⟩
  currentDirectory := "/r"
  programs := ["git"]
  git := git
  exchanges := []

variable {calls : Git.Invocation → Prop} {region : Location → Prop} {before after : World}

/-- A world and a later one between which git was only called in a certain way, and no file in a
region was changed. -/
structure Spared (calls : Git.Invocation → Prop) (region : Location → Prop)
    (before after : World) : Prop where
  git : after.git = before.git
  programs : after.programs = before.programs
  exchanges : ∃ later, after.exchanges = later ++ before.exchanges ∧
    ∀ exchange ∈ later, calls exchange.invocation
  files : ∀ place, region place → after.files.fileAt? place = before.files.fileAt? place
  directories : ∀ place, region place → after.files.item? place = some .directory →
    before.files.item? place = some .directory

theorem Spared.refl (world : World) : world.Spared calls region world :=
  ⟨rfl, rfl, ⟨[], rfl, by simp⟩, fun _ _ => rfl, fun _ _ present => present⟩

theorem Spared.trans {first second third : World} (near : first.Spared calls region second)
    (far : second.Spared calls region third) : first.Spared calls region third := by
  rcases near.exchanges with ⟨early, nearExchanges, earlyCalls⟩
  rcases far.exchanges with ⟨late, farExchanges, lateCalls⟩
  refine ⟨far.git.trans near.git, far.programs.trans near.programs, ⟨late ++ early, ?_, ?_⟩, ?_, ?_⟩
  · rw [farExchanges, nearExchanges, List.append_assoc]
  · intro exchange present
    rcases List.mem_append.mp present with isLate | isEarly
    · exact lateCalls exchange isLate
    · exact earlyCalls exchange isEarly
  · intro place inside
    rw [far.files place inside, near.files place inside]
  · intro place inside present
    exact near.directories place inside (far.directories place inside present)

/-- The world after a git process was run. -/
def exchanged (invocation : Git.Invocation) (world : World) : World :=
  let reply := world.git world.exchanges invocation world.files
  { world with
    files := reply.files
    exchanges := ⟨invocation, world.files, reply⟩ :: world.exchanges }

theorem start_of_none {invocation : Git.Invocation} {world : World}
    (startable : world.startFailure? invocation = none) :
    world.start invocation =
      (.ok (world.git world.exchanges invocation world.files).completion,
        world.exchanged invocation) := by
  rw [start, startable]
  rfl

theorem start_of_some {invocation : Git.Invocation} {world : World} {failure : Git.StartFailure}
    (unable : world.startFailure? invocation = some failure) :
    world.start invocation = (.error failure, world) := by
  rw [start, unable]

/-- Git is called, or cannot be started and changes nothing. -/
theorem start_cases (invocation : Git.Invocation) (world : World) :
    (world.start invocation).2 = world ∨
      (world.start invocation).2 = world.exchanged invocation := by
  rcases startable : world.startFailure? invocation with _ | failure
  · right
    rw [start_of_none startable]
  · left
    rw [start_of_some startable]

theorem spared_exchanged {invocation : Git.Invocation} {world : World}
    (sparing : Git.Spares world.git calls region) (called : calls invocation) :
    world.Spared calls region (world.exchanged invocation) := by
  refine ⟨rfl, rfl, ⟨[⟨invocation, world.files, _⟩], rfl, by simpa using called⟩, ?_, ?_⟩
  · intro place inside
    exact sparing.files _ _ _ place called inside
  · intro place inside
    exact sparing.directories _ _ _ place called inside

/-- The lock's file is the only one that taking a lock touches. -/
theorem acquire_spec (holder : Holder) (place : Location) (world : World) :
    world.SameOutside (world.acquire holder place).2 ∧
      ∀ other, other ≠ place →
        (world.acquire holder place).2.files.fileAt? other = world.files.fileAt? other := by
  rcases opened : world.files.openFile place with failure | files
  · have refused : world.acquire holder place = (.error failure, world) := by
      simp only [acquire, opened]
    rw [refused]
    refine ⟨rfl, ?_⟩
    intro _ _
    rfl
  · rcases held : files.hold? holder place with _ | taken
    · have busy : world.acquire holder place = (.ok false, world.withFiles files) := by
        simp only [acquire, opened, held]
      rw [busy]
      refine ⟨rfl, ?_⟩
      intro _ elsewhere
      exact FileTree.fileAt?_of_openFile opened elsewhere
    · have free : world.acquire holder place = (.ok true, world.withFiles taken) := by
        simp only [acquire, opened, held]
      rw [free]
      refine ⟨rfl, ?_⟩
      intro other elsewhere
      exact (FileTree.fileAt?_of_hold? held elsewhere).trans
        (FileTree.fileAt?_of_openFile opened elsewhere)

theorem fileAt?_release (holder : Holder) (world : World) {place other : Location}
    (elsewhere : other ≠ place) :
    (world.release holder place).files.fileAt? other = world.files.fileAt? other :=
  FileTree.fileAt?_release holder place world.files elsewhere

end World

namespace Task

variable {Failure OtherFailure Result Other : Type} {calls : Git.Invocation → Prop}
  {region : Location → Prop}

/-- A task that spares a region if the calls of git in it do. -/
def Spares (calls : Git.Invocation → Prop) (region : Location → Prop)
    (task : Task Failure Result) : Prop :=
  ∀ (holder : Holder) (world : World), Git.Spares world.git calls region →
    world.Spared calls region (task.perform holder world).2

theorem spares_of_unchanged {task : Task Failure Result}
    (unchanged : ∀ (holder : Holder) (world : World), (task.perform holder world).2 = world) :
    task.Spares calls region := by
  intro holder world _
  rw [unchanged]
  exact World.Spared.refl world

theorem spares_pure (value : Result) : (pure value : Task Failure Result).Spares calls region := by
  apply spares_of_unchanged
  intro _ _
  rw [perform_pure]

theorem spares_throw (failure : Failure) :
    (throw failure : Task Failure Result).Spares calls region := by
  apply spares_of_unchanged
  intro _ _
  rw [perform_throw]

theorem Spares.bind {task : Task Failure Result} {next : Result → Task Failure Other}
    (first : task.Spares calls region) (second : ∀ value, (next value).Spares calls region) :
    (task >>= next).Spares calls region := by
  intro holder world sparing
  have near := first holder world sparing
  rw [perform_bind]
  rcases performed : task.perform holder world with ⟨failure | value, between⟩
  · rw [performed] at near
    exact near
  · rw [performed] at near
    have still : Git.Spares between.git calls region := by
      rw [near.git]
      exact sparing
    exact near.trans (second value holder between still)

end Task

namespace Storage

variable {storage : Storage} {holder : Holder} {world : World}

theorem lock_spec (storage : Storage) (holder : Holder) (world : World) :
    world.SameOutside (storage.lock.perform holder world).2 ∧
      ∀ place, place ≠ storage.lockPlace →
        (storage.lock.perform holder world).2.files.fileAt? place = world.files.fileAt? place := by
  rw [lock]
  rcases directories : world.files.createDirectories (Path.location storage.privateDirectory) with
    failure | prepared
  · have first := World.change_of_error world (.createDirectories _) directories
    rw [Task.perform_bind, Task.perform_mapFailure, Task.perform_change, first]
    refine ⟨rfl, ?_⟩
    intro _ _
    rfl
  · have first := World.change_of_ok world (.createDirectories _) directories
    have files := FileTree.fileAt?_of_createDirectories directories
    have taken := World.acquire_spec holder storage.lockPlace (world.withFiles prepared)
    rw [World.withFiles_files, files] at taken
    rw [Task.perform_bind, Task.perform_mapFailure, Task.perform_change, first]
    simp only [Except.mapError_ok]
    rw [Task.perform_bind, Task.perform_mapFailure, Task.perform_acquire]
    rcases acquired : (world.withFiles prepared).acquire holder storage.lockPlace with
      ⟨failure | free, after⟩
    · rw [acquired] at taken
      exact taken
    · rw [acquired] at taken
      simp only [Except.mapError_ok]
      cases free with
      | true =>
          simp only [Bool.not_true, Bool.false_eq_true, if_false, Task.perform_pure]
          exact taken
      | false =>
          simp only [Bool.not_false, if_true, Task.perform_throw]
          exact taken

theorem perform_unlock {Failure : Type} :
    (storage.unlock : Task Failure Unit).perform holder world =
      (.ok (), world.release holder storage.lockPlace) := by
  rw [unlock, Task.perform_release]

theorem holds_eq (storage : Storage) (tree : FileTree) (entry : MemoryEntry) :
    storage.holds tree entry = (tree.fileAt? (storage.place entry)).isSome := by
  rw [holds, FileTree.isFile_eq_isSome]

/-- The memory whose file a path names, whether it exists or not. -/
def entryNamed? (storage : Storage) (path : String) : Option MemoryEntry := do
  let whole ← storage.memoryFile? path
  let components ← Path.componentsBelow? storage.memoriesDirectory whole
  entryOfComponents? components

/-- The memory with a slug among the given ones, in the first category that has it. -/
def findAmong? (held : MemoryEntry → Bool) (slug : Slug) : Option MemoryEntry :=
  (Symbol.all.map fun symbol => ⟨symbol, slug⟩).find? held

/-- The slug that a reference is, with or without the ending of file names. -/
def slugOfReference? (reference : String) : Option Slug :=
  Slug.ofString? (String.ofList (Text.withoutEnding memoryEnding.toList reference.toList))

/-- The memory that a reference names among the given ones. -/
def resolveAmong? (storage : Storage) (held : MemoryEntry → Bool) (reference : String) :
    Option MemoryEntry :=
  ((storage.entryNamed? (Text.trimmed reference)).filter held).or
    ((slugOfReference? (Text.trimmed reference)).bind (findAmong? held))

theorem entryAtPath?_eq (storage : Storage) (tree : FileTree) (path : String) :
    storage.entryAtPath? tree path = (storage.entryNamed? path).filter (storage.holds tree) := by
  simp only [entryAtPath?, entryNamed?, Option.bind_eq_bind]
  rcases storage.memoryFile? path with _ | whole
  · rfl
  · simp only [Option.bind_some]
    rcases Path.componentsBelow? storage.memoriesDirectory whole with _ | components
    · rfl
    · simp only [Option.bind_some]
      rcases entryOfComponents? components with _ | entry
      · rfl
      · rw [Option.bind_some, Option.filter_some]

theorem resolve?_eq (storage : Storage) (tree : FileTree) (reference : String) :
    storage.resolve? tree reference = storage.resolveAmong? (storage.holds tree) reference := by
  rw [resolveAmong?, ← entryAtPath?_eq]
  delta resolve?
  dsimp only
  generalize storage.entryAtPath? tree (Text.trimmed reference) = named
  cases named with
  | none =>
      rw [Option.none_or]
      rfl
  | some entry => rw [Option.some_or]

theorem held_of_resolveAmong? {held : MemoryEntry → Bool} {reference : String}
    {entry : MemoryEntry} (resolved : storage.resolveAmong? held reference = some entry) :
    held entry := by
  rw [resolveAmong?, Option.or_eq_some_iff] at resolved
  rcases resolved with named | ⟨-, found⟩
  · exact (Option.filter_eq_some_iff.mp named).2
  · rcases Option.bind_eq_some_iff.mp found with ⟨slug, -, chosen⟩
    exact List.find?_some chosen

theorem holds_of_resolve? {tree : FileTree} {reference : String} {entry : MemoryEntry}
    (resolved : storage.resolve? tree reference = some entry) : storage.holds tree entry := by
  rw [resolve?_eq] at resolved
  exact held_of_resolveAmong? resolved

section Lookups

variable {left right : FileTree}
  (same : ∀ entry, left.fileAt? (storage.place entry) = right.fileAt? (storage.place entry))

include same

theorem holds_congr : storage.holds left = storage.holds right := by
  funext entry
  rw [holds_eq, holds_eq, same]

theorem resolve?_congr (reference : String) :
    storage.resolve? left reference = storage.resolve? right reference := by
  rw [resolve?_eq, resolve?_eq, holds_congr same]

end Lookups

theorem fileAt?_of_find? {tree : FileTree} {slug : Slug}
    (free : storage.find? tree slug = none) (symbol : Symbol) :
    tree.fileAt? (storage.place ⟨symbol, slug⟩) = none := by
  rw [find?, List.find?_eq_none] at free
  have absent := free ⟨symbol, slug⟩ (List.mem_map.mpr ⟨symbol, symbol.mem_all, rfl⟩)
  simpa [holds_eq] using absent

theorem textOf_eq {tree : FileTree} {entry : MemoryEntry} {content : ByteArray}
    (present : tree.fileAt? (storage.place entry) = some content) :
    storage.textOf tree entry =
      match Text.decode? content with
      | some text => .ok text
      | none => .error (.io (storage.memoryPath entry) .invalidText) := by
  rw [textOf, FileTree.readText_eq present]
  cases Text.decode? content <;> rfl

/-- The text of a memory that exists is what its file encodes. -/
theorem fileAt?_of_textOf {tree : FileTree} {entry : MemoryEntry} {text : String}
    (present : storage.holds tree entry) (held : storage.textOf tree entry = .ok text) :
    tree.fileAt? (storage.place entry) = some (Text.encode text) := by
  rw [holds_eq] at present
  rcases Option.isSome_iff_exists.mp present with ⟨content, found⟩
  rw [textOf_eq found] at held
  rcases decoded : Text.decode? content with _ | read
  · rw [decoded] at held
    cases held
  · rw [decoded] at held
    injection held with same
    rw [found, ← same, Text.encode_of_decode? decoded]

theorem textOf_congr {left right : FileTree} {entry : MemoryEntry}
    (present : storage.holds left entry)
    (same : left.fileAt? (storage.place entry) = right.fileAt? (storage.place entry)) :
    storage.textOf left entry = storage.textOf right entry := by
  rw [holds_eq] at present
  rcases Option.isSome_iff_exists.mp present with ⟨content, found⟩
  rw [textOf_eq found, textOf_eq (same ▸ found)]

end Storage

namespace Session

/-- The session in the repository of a plain world. -/
def plain : Session :=
  ⟨⟨⟨["r", ".git"], ["r", ".git"]⟩, "/r/"⟩, ⟨.none, none⟩⟩

variable {session : Session} {holder : Holder} {world locked : World}

/-- The process that runs git with arguments for a session. -/
def invocation (session : Session) (arguments : List String) : Git.Invocation :=
  session.config.git.invocation session.repository.workDirectory arguments

/-- The world in which a command begins that changes memories, if it may begin. -/
def enter? (session : Session) (holder : Holder) (world : World) : Option World :=
  match session.repository.ensureClean world.files with
  | .error _ => none
  | .ok () =>
    match session.storage.lock.perform holder world with
    | (.ok (), locked) => some locked
    | (.error _, _) => none

theorem enter?_of_taken (clean : session.repository.ensureClean world.files = .ok ())
    (taken : session.storage.lock.perform holder world = (.ok (), locked)) :
    session.enter? holder world = some locked := by
  simp only [enter?, clean, taken]

/-- A command begins in a clean repository whose lock it could take. -/
theorem enter?_eq_some (entered : session.enter? holder world = some locked) :
    session.repository.ensureClean world.files = .ok () ∧
      session.storage.lock.perform holder world = (.ok (), locked) := by
  rcases clean : session.repository.ensureClean world.files with failure | _
  · simp only [enter?, clean, reduceCtorEq] at entered
  · rcases taken : session.storage.lock.perform holder world with ⟨failure | _, after⟩
    · simp only [enter?, clean, taken, reduceCtorEq] at entered
    · rw [enter?_of_taken clean taken] at entered
      injection entered with same
      exact ⟨rfl, by rw [same]⟩

theorem enter?_spec (entered : session.enter? holder world = some locked) :
    world.SameOutside locked ∧ ∀ place, place ≠ session.storage.lockPlace →
      locked.files.fileAt? place = world.files.fileAt? place := by
  have kept := session.storage.lock_spec holder world
  rw [(enter?_eq_some entered).2] at kept
  exact kept

section Exclusively

variable {Result : Type} {task : Task ExecutionError Result}

theorem perform_ensureClean :
    (Task.inspect fun view =>
      (session.repository.ensureClean view.files).mapError ExecutionError.git).perform
        holder world =
      ((session.repository.ensureClean world.files).mapError .git, world) :=
  Task.perform_inspect _

theorem perform_exclusively_of_entered (entered : session.enter? holder world = some locked) :
    (session.exclusively task).perform holder world =
      ((task.perform holder locked).1,
        (task.perform holder locked).2.release holder session.storage.lockPlace) := by
  rcases enter?_eq_some entered with ⟨clean, taken⟩
  rw [exclusively, Task.perform_bind, perform_ensureClean, clean]
  simp only [Except.mapError_ok]
  rw [Task.perform_bind, Task.perform_mapFailure, taken]
  simp only [Except.mapError_ok]
  rw [Task.perform_thenAlways, Storage.perform_unlock]

/-- A command that may not begin fails and changes no file but that of the lock. -/
theorem perform_exclusively_of_barred (barred : session.enter? holder world = none) :
    ∃ failure after, (session.exclusively task).perform holder world = (.error failure, after) ∧
      world.SameOutside after ∧ ∀ place, place ≠ session.storage.lockPlace →
        after.files.fileAt? place = world.files.fileAt? place := by
  rw [exclusively, Task.perform_bind, perform_ensureClean]
  rcases clean : session.repository.ensureClean world.files with failure | _
  · refine ⟨.git failure, world, rfl, rfl, ?_⟩
    intro _ _
    rfl
  · have kept := session.storage.lock_spec holder world
    simp only [Except.mapError_ok]
    rw [Task.perform_bind, Task.perform_mapFailure]
    rcases taken : session.storage.lock.perform holder world with ⟨failure | _, after⟩
    · rw [taken] at kept
      exact ⟨.lock failure, after, rfl, kept⟩
    · rw [enter?_of_taken clean taken] at barred
      contradiction

end Exclusively

section GitCalls

variable {calls : Git.Invocation → Prop} {region : Location → Prop}

theorem perform_git (arguments : List String) (accepted : List Int) :
    (session.git arguments accepted).perform holder world =
      ((session.config.git.accept arguments accepted
          (world.start (session.invocation arguments)).1).mapError .git,
        (world.start (session.invocation arguments)).2) := by
  rw [git, Task.perform_bind, Task.perform_outcome, Task.perform_start]
  simp only [Task.perform_done]
  rfl

/-- Git that can be started and ends with an accepted status gives its output. -/
theorem perform_git_of_accepted {arguments : List String} {accepted : List Int} {reply : Reply}
    {code : Int} (startable : world.startFailure? (session.invocation arguments) = none)
    (answered : world.git world.exchanges (session.invocation arguments) world.files = reply)
    (ended : reply.code = some code) (isAccepted : code ∈ accepted) :
    (session.git arguments accepted).perform holder world =
      (.ok reply.completion, world.exchanged (session.invocation arguments)) := by
  rw [perform_git, World.start_of_none startable, answered, Git.Settings.accept, if_pos]
  · rfl
  · rw [Reply.completion, ended]
    simpa using isAccepted

theorem spares_git {arguments : List String} (called : calls (session.invocation arguments))
    (accepted : List Int) : (session.git arguments accepted).Spares calls region := by
  intro holder world sparing
  rw [perform_git]
  rcases startable : world.startFailure? (session.invocation arguments) with _ | failure
  · rw [World.start_of_none startable]
    exact World.spared_exchanged sparing called
  · rw [World.start_of_some startable]
    exact World.Spared.refl world

theorem spares_head : session.head.Spares calls region := by
  apply Task.spares_of_unchanged
  intro _ _
  rw [head, Task.perform_inspect]

theorem spares_commit {verb : String} {entry : MemoryEntry}
    (called : calls (session.invocation
      ["commit", "-q", "-m", session.subject verb entry, "--", entry.relativePath])) :
    (session.commit verb entry).Spares calls region := by
  rw [commit]
  apply (spares_git called [0]).bind
  intro _
  apply spares_head.bind
  intro found
  cases found with
  | none => exact Task.spares_throw _
  | some identifier => exact Task.spares_pure _

theorem spares_addAndCommit {verb : String} {entry : MemoryEntry}
    (added : calls (session.invocation ["add", "--", entry.relativePath]))
    (committed : calls (session.invocation
      ["commit", "-q", "-m", session.subject verb entry, "--", entry.relativePath])) :
    (session.addAndCommit verb entry).Spares calls region := by
  rw [addAndCommit]
  apply (spares_git added [0]).bind
  intro _
  exact spares_commit committed

end GitCalls

end Session

end MemoryKeeper

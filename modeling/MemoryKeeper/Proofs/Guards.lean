import MemoryKeeper.Proofs.Contents
import MemoryKeeper.Proofs.Observers
import MemoryKeeper.Proofs.Working

/-!
# Guards come before effects

A command that changes memories must do nothing while an operation is paused or
somebody has the lock, and nothing if its reference names no memory or its slug
is taken. Two of these guards are looked at before the lock is taken and two
behind it, but each ends the command before it writes a file or calls git.

Whatever a command comes to, who has the lock afterwards had it before. Between
taking the lock and giving it back no step touches the lock's file, so what is
given back is what was taken.
-/

namespace MemoryKeeper

open MemoryKeeper.Path (Location)

/-- Git whose processes take no file at a place for anybody. -/
def Git.LeavesFree (git : Git.Behavior) (place : Location) : Prop :=
  ∀ exchanges invocation found taker,
    (git exchanges invocation found).files.IsHeld taker place → found.IsHeld taker place

theorem World.isHeld_before_start {world : World} {invocation : Git.Invocation} {taker : Holder}
    {place : Location} (honest : Git.LeavesFree world.git place)
    (held : (world.start invocation).2.files.IsHeld taker place) :
    world.files.IsHeld taker place := by
  rcases start_cases invocation world with same | called
  · rw [same] at held
    exact held
  · rw [called] at held
    exact honest _ _ _ _ held

theorem World.files_release (holder : Holder) (place : Location) (world : World) :
    (world.release holder place).files = world.files.release holder place :=
  rfl

theorem World.SameOutside.release {before after : World} (outside : before.SameOutside after)
    (holder : Holder) (place : Location) : before.SameOutside (after.release holder place) :=
  calc
    after.release holder place = after.withFiles (after.files.release holder place) := rfl
    _ = (before.withFiles after.files).withFiles (after.files.release holder place) :=
      congrArg (World.withFiles · _) outside
    _ = before.withFiles (after.release holder place).files := rfl

namespace Program

variable {Result : Type}

/-- A program that changes no file at a place and takes no lock. -/
inductive KeepsOff (place : Location) : Program Result → Prop where
  | done (value : Result) : KeepsOff place (.done value)
  | observe {next : View → Program Result} (onward : ∀ view, KeepsOff place (next view)) :
      KeepsOff place (.observe next)
  | change {edit : Edit} {next : Except OsError Unit → Program Result}
      (apart : place ∉ edit.places) (onward : ∀ answer, KeepsOff place (next answer)) :
      KeepsOff place (.change edit next)
  | start {invocation : Git.Invocation}
      {next : Except Git.StartFailure Git.Completion → Program Result}
      (onward : ∀ answer, KeepsOff place (next answer)) : KeepsOff place (.start invocation next)

/-- Who has a file after such a program had it before. -/
theorem KeepsOff.isHeld_before {place : Location} {program : Program Result} {world : World}
    {holder taker : Holder} (off : program.KeepsOff place)
    (honest : Git.LeavesFree world.git place)
    (held : (program.run holder world).2.files.IsHeld taker place) :
    world.files.IsHeld taker place := by
  induction off generalizing world with
  | done value => exact held
  | observe _ ih => exact ih _ honest held
  | change apart _ ih =>
      refine World.isHeld_before_change apart (ih _ ?_ held)
      rw [World.git_change]
      exact honest
  | start _ ih =>
      refine World.isHeld_before_start honest (ih _ ?_ held)
      rw [World.git_start]
      exact honest

end Program

namespace Storage

variable {storage : Storage} {holder taker : Holder} {world after : World} {prepared : FileTree}

theorem lockPlace_ne_nil (storage : Storage) : storage.lockPlace ≠ [] := by
  rw [lockPlace_eq]
  simp

/-- What comes of the lock if its directory cannot be made. -/
theorem perform_lock_of_error {failure : OsError}
    (refused : world.files.createDirectories (Path.location storage.privateDirectory) =
      .error failure) :
    storage.lock.perform holder world =
      (.error (.creationFailed (.directory storage.privateDirectory failure)), world) := by
  have first := World.change_of_error world (.createDirectories _) refused
  rw [lock, Task.perform_bind, Task.perform_mapFailure, Task.perform_change, first]
  rfl

/-- What comes of the lock once its directory is there. -/
theorem perform_lock_of_ok
    (made : world.files.createDirectories (Path.location storage.privateDirectory) =
      .ok prepared) :
    storage.lock.perform holder world =
      (match ((world.withFiles prepared).acquire holder storage.lockPlace).1 with
        | .error failure => .error (.creationFailed (.file storage.lockPath failure))
        | .ok true => .ok ()
        | .ok false => .error .alreadyLocked,
        ((world.withFiles prepared).acquire holder storage.lockPlace).2) := by
  have first := World.change_of_ok world (.createDirectories _) made
  rw [lock, Task.perform_bind, Task.perform_mapFailure, Task.perform_change, first]
  simp only [Except.mapError_ok]
  rw [Task.perform_bind, Task.perform_mapFailure, Task.perform_acquire]
  rcases (world.withFiles prepared).acquire holder storage.lockPlace with
    ⟨failure | _ | _, after⟩
  · rfl
  · simp only [Except.mapError_ok, Bool.not_false, if_true, Task.perform_throw]
  · simp only [Except.mapError_ok, Bool.not_true, Bool.false_eq_true, if_false, Task.perform_pure]

/-- Who has the lock after somebody tried to take it had it before or has just taken it. -/
theorem isHeld_before_lock
    (held : (storage.lock.perform holder world).2.files.IsHeld taker storage.lockPlace) :
    world.files.IsHeld taker storage.lockPlace ∨
      taker = holder ∧ (storage.lock.perform holder world).1 = .ok () := by
  rcases made : world.files.createDirectories (Path.location storage.privateDirectory) with
    failure | prepared
  · rw [perform_lock_of_error made] at held
    exact .inl held
  · rw [perform_lock_of_ok made] at held ⊢
    dsimp only at held
    rcases World.isHeld_before_acquire held with before | ⟨same, taken⟩
    · left
      exact (FileTree.isHeld_iff_of_createDirectories made).mp before
    · right
      exact ⟨same, by rw [taken]⟩

theorem lock_fails_of_isHeld (holder : Holder) (held : world.files.IsHeld taker storage.lockPlace) :
    (storage.lock.perform holder world).1 ≠ .ok () := by
  rcases made : world.files.createDirectories (Path.location storage.privateDirectory) with
    failure | prepared
  · rw [perform_lock_of_error made]
    simp
  · rw [perform_lock_of_ok made]
    have still : (world.withFiles prepared).files.IsHeld taker storage.lockPlace :=
      (FileTree.isHeld_iff_of_createDirectories made).mpr held
    have refused : ((world.withFiles prepared).acquire holder storage.lockPlace).1 ≠ .ok true :=
      (World.acquire_of_isHeld still).1
    rcases answer : ((world.withFiles prepared).acquire holder storage.lockPlace).1 with
      failure | _ | _
    · simp
    · simp
    · exact absurd answer refused

/-- The lock is refused only because somebody has it. -/
theorem isHeld_of_alreadyLocked
    (refused : (storage.lock.perform holder world).1 = .error .alreadyLocked) :
    ∃ taker, world.files.IsHeld taker storage.lockPlace := by
  rcases made : world.files.createDirectories (Path.location storage.privateDirectory) with
    failure | prepared
  · rw [perform_lock_of_error made] at refused
    cases refused
  · rw [perform_lock_of_ok made] at refused
    rcases answer : ((world.withFiles prepared).acquire holder storage.lockPlace).1 with
      failure | _ | _
    · simp [answer] at refused
    · rcases World.isHeld_of_refused answer with ⟨taker, held⟩
      exact ⟨taker, (FileTree.isHeld_iff_of_createDirectories made).mp held⟩
    · simp [answer] at refused

end Storage

namespace Session

variable {session : Session} {holder taker : Holder} {world locked : World} {command : Command}

section Holding

variable {Result : Type} {program : Program Result}

theorem Reads.keepsOff {place : Location} (reads : session.Reads program) :
    program.KeepsOff place := by
  induction reads with
  | done value => exact .done value
  | observe _ _ ih => exact .observe ih
  | ask _ _ ih => exact .start ih

/-- The work on a memory does not touch the lock. -/
theorem Works.keepsOff {entry : MemoryEntry} {discards : Prop} {goal : Bool → Result → Prop}
    {known : Bool} (works : session.Works entry discards goal known program) :
    program.KeepsOff session.storage.lockPlace := by
  have place := session.storage.place_ne_lockPlace entry
  have draft := session.storage.draftPlace_ne_lockPlace entry
  induction works with
  | done reached => exact .done _
  | observe _ ih => exact .observe ih
  | prepare _ noLock _ ih => exact .change noLock ih
  | move _ _ refused moved =>
      refine .change (by simp [Edit.places, place.symm, draft.symm]) ?_
      rintro (failure | _)
      · exact refused failure
      · exact moved
  | discard _ _ ih => exact .change (by simp [Edit.places, place.symm]) ih
  | call _ _ ih => exact .start ih
  | remove _ ih => exact .start ih
  | recover _ ih => exact .start ih

theorem LooksUp.keepsOff {Failure Value : Type} {discards : Prop}
    {finds : FileTree → MemoryEntry → Prop}
    {goal : MemoryEntry → Bool → Except Failure Value → Prop}
    {program : Program (Except Failure Value)}
    (looks : session.LooksUp discards finds goal program) :
    program.KeepsOff session.storage.lockPlace := by
  rcases looks with ⟨looked⟩
  refine .observe fun view => ?_
  rcases looked view with ⟨failure, ended⟩ | ⟨entry, -, works⟩
  · rw [ended]
    exact .done _
  · exact works.keepsOff

end Holding

section Exclusively

variable {Result : Type} {task : Task ExecutionError Result}

/-- A command that may not begin found an operation paused or did not get the lock. -/
theorem perform_exclusively_of_not_entered (task : Task ExecutionError Result)
    (barred : session.enter? holder world = none) :
    (∃ failure, session.repository.ensureClean world.files = .error failure ∧
      (session.exclusively task).perform holder world = (.error (.git failure), world)) ∨
    ∃ failure after, session.storage.lock.perform holder world = (.error failure, after) ∧
      (session.exclusively task).perform holder world = (.error (.lock failure), after) := by
  rw [exclusively, Task.perform_bind, perform_ensureClean]
  rcases clean : session.repository.ensureClean world.files with failure | _
  · exact .inl ⟨failure, rfl, rfl⟩
  · right
    simp only [Except.mapError_ok]
    rw [Task.perform_bind, Task.perform_mapFailure]
    rcases taken : session.storage.lock.perform holder world with ⟨failure | _, after⟩
    · exact ⟨failure, after, rfl, rfl⟩
    · rw [enter?_of_taken clean taken] at barred
      contradiction

theorem calls_exclusively_of_barred (barred : session.enter? holder world = none) :
    (session.exclusively task).calls holder world = [] := by
  have looks : (Task.inspect fun view =>
      (session.repository.ensureClean view.files).mapError ExecutionError.git).perform
        holder world = ((session.repository.ensureClean world.files).mapError .git, world) :=
    perform_ensureClean
  rw [exclusively]
  rcases clean : session.repository.ensureClean world.files with failure | _
  · rw [clean] at looks
    rw [Task.calls_bind_of_error looks]
    rfl
  · rw [clean] at looks
    rw [Task.calls_bind_of_ok looks]
    rcases taken : session.storage.lock.perform holder world with ⟨failure | _, after⟩
    · have locks : (session.storage.lock.mapFailure ExecutionError.lock).perform holder world =
          (.error (.lock failure), after) := by
        rw [Task.perform_mapFailure, taken]
        rfl
      rw [Task.calls_bind_of_error locks, Task.calls_mapFailure,
        Storage.silent_lock.calls_eq_nil, List.append_nil]
      rfl
    · rw [enter?_of_taken clean taken] at barred
      contradiction

/-- Who has the lock after a task that was done behind it had it before the task. -/
theorem isHeld_before_exclusively (off : task.run.KeepsOff session.storage.lockPlace)
    (honest : Git.LeavesFree world.git session.storage.lockPlace)
    (held : ((session.exclusively task).perform holder world).2.files.IsHeld taker
      session.storage.lockPlace) : world.files.IsHeld taker session.storage.lockPlace := by
  rcases entered : session.enter? holder world with _ | locked
  · rcases perform_exclusively_of_not_entered task entered with
      ⟨failure, -, performed⟩ | ⟨failure, after, locks, performed⟩
    · rw [performed] at held
      exact held
    · rw [performed] at held
      have still : (session.storage.lock.perform holder world).2.files.IsHeld taker
          session.storage.lockPlace := by
        rw [locks]
        exact held
      rcases Storage.isHeld_before_lock still with before | ⟨-, taken⟩
      · exact before
      · rw [locks] at taken
        cases taken
  · -- the task did not touch the lock's file, so what is given back is what was taken
    have released : (FileTree.release holder session.storage.lockPlace
        (task.perform holder locked).2.files).IsHeld taker session.storage.lockPlace := by
      rw [perform_exclusively_of_entered entered] at held
      dsimp only at held
      rwa [World.files_release] at held
    rcases FileTree.isHeld_of_release session.storage.lockPlace_ne_nil released with ⟨after, other⟩
    have taken := (enter?_eq_some entered).2
    have same : locked.git = world.git := by
      have kept := session.storage.lock.git_perform holder world
      rw [taken] at kept
      exact kept
    rw [Task.perform] at after
    have still : (session.storage.lock.perform holder world).2.files.IsHeld taker
        session.storage.lockPlace := by
      rw [taken]
      exact off.isHeld_before (same ▸ honest) after
    rcases Storage.isHeld_before_lock still with before | ⟨isHolder, -⟩
    · exact before
    · exact absurd isHolder other

end Exclusively

/-- Who has the lock after a command had it before, whatever the command came to. -/
theorem isHeld_before_execute (command : Command)
    (honest : Git.LeavesFree world.git session.storage.lockPlace)
    (held : ((session.execute command).perform holder world).2.files.IsHeld taker
      session.storage.lockPlace) : world.files.IsHeld taker session.storage.lockPlace := by
  by_cases mutates : command.operation ∈ [.create, .update, .delete]
  · rcases exists_looksUp mutates with ⟨task, executed, looks⟩
    rw [executed] at held
    exact isHeld_before_exclusively looks.keepsOff honest held
  · have reads : session.Reads (session.execute command).run := by
      apply reads_execute
      cases command <;> first | rfl | simp [Command.operation] at mutates
    rw [Task.perform] at held
    exact reads.keepsOff.isHeld_before honest held

/-- Why a command that changes memories must do nothing: an operation is paused, somebody has the
lock, its reference names no memory, or its slug is taken in some category. -/
inductive Obstructed (session : Session) (world : World) : Command → Prop where
  | paused (command : Command)
      (inProgress : (session.repository.state world.files).isInProgress = true) :
      Obstructed session world command
  | locked (command : Command) (owner : Holder)
      (held : world.files.IsHeld owner session.storage.lockPlace) :
      Obstructed session world command
  | unknownUpdate (reference content : String)
      (absent : session.storage.resolve? world.files reference = none) :
      Obstructed session world (.update reference content)
  | unknownDelete (reference : String)
      (absent : session.storage.resolve? world.files reference = none) :
      Obstructed session world (.delete reference)
  | taken (symbol : Symbol) (slug : Slug) (content : String) (kind : Symbol)
      (present : session.storage.holds world.files ⟨kind, slug⟩ = true) :
      Obstructed session world (.create symbol slug content)

/-- A command that gets the lock all the same finds nothing to work on. -/
theorem Obstructed.not_finds (obstructed : session.Obstructed world command)
    (entered : session.enter? holder world = some locked) (entry : MemoryEntry) :
    ¬session.Finds command locked.files entry := by
  intro finds
  rcases enter?_eq_some entered with ⟨clean, taken⟩
  cases obstructed with
  | paused command inProgress =>
      rw [Git.Repository.ensureClean, if_pos inProgress] at clean
      cases clean
  | locked command owner held =>
      have fails := Storage.lock_fails_of_isHeld holder held
      rw [taken] at fails
      exact fails rfl
  | unknownUpdate reference content absent =>
      rw [← resolve?_of_entered entered] at absent
      exact Option.some_ne_none entry (finds.symm.trans absent)
  | unknownDelete reference absent =>
      rw [← resolve?_of_entered entered] at absent
      exact Option.some_ne_none entry (finds.symm.trans absent)
  | taken symbol slug content kind present =>
      have absent := Storage.fileAt?_of_find? finds.2 kind
      rw [(enter?_spec entered).2 _ (session.storage.place_ne_lockPlace _)] at absent
      rw [Storage.holds_eq, absent] at present
      cases present

/-- A task that finds nothing to work on ends at once. -/
theorem LooksUp.ends_of_not_finds {Failure Value : Type} {discards : Prop}
    {finds : FileTree → MemoryEntry → Prop}
    {goal : MemoryEntry → Bool → Except Failure Value → Prop} {task : Task Failure Value}
    (looks : session.LooksUp discards finds goal task.run)
    (nothing : ∀ entry, ¬finds world.files entry) :
    task.calls holder world = [] ∧
      ∃ failure, task.perform holder world = (.error failure, world) := by
  rw [Task.calls, Task.perform]
  generalize task.run = program at looks ⊢
  rcases looks with ⟨looked⟩
  rcases looked world.toView with ⟨failure, ended⟩ | ⟨entry, finds, -⟩
  · rw [Program.calls, Program.run, ended]
    exact ⟨rfl, failure, rfl⟩
  · exact absurd finds (nothing entry)

theorem perform_of_obstructed (holder : Holder)
    (mutates : command.operation ∈ [.create, .update, .delete])
    (obstructed : session.Obstructed world command) :
    (∃ failure after, (session.execute command).perform holder world = (.error failure, after) ∧
      world.SameOutside after ∧ ∀ place, place ≠ session.storage.lockPlace →
        after.files.fileAt? place = world.files.fileAt? place) ∧
    (session.execute command).calls holder world = [] := by
  rcases exists_looksUp mutates with ⟨task, executed, looks⟩
  rw [executed]
  rcases entered : session.enter? holder world with _ | locked
  · exact ⟨perform_exclusively_of_barred entered, calls_exclusively_of_barred entered⟩
  · rcases looks.ends_of_not_finds (obstructed.not_finds entered) with ⟨silent, failure, fails⟩
    rw [calls_exclusively entered, silent]
    refine ⟨⟨failure, locked.release holder session.storage.lockPlace, ?_, ?_, ?_⟩, rfl⟩
    · rw [perform_exclusively_of_entered entered, fails]
    · exact (enter?_spec entered).1.release holder session.storage.lockPlace
    · intro place elsewhere
      rw [World.fileAt?_release holder locked elsewhere]
      exact (enter?_spec entered).2 place elsewhere

end Session

end MemoryKeeper

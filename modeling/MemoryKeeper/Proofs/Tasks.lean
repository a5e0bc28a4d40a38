import MemoryKeeper.World.Program

/-!
# Performing tasks

What a task comes to when it is performed alone in a world: its result or its
failure, and the world that it leaves. Performing follows the way in which tasks
are put together, so a task is understood from its parts.
-/

namespace MemoryKeeper

open MemoryKeeper.Path (Location)

theorem Except.eq_ok_of_toOption {Failure Result : Type} {outcome : Except Failure Result}
    {value : Result} (found : outcome.toOption = some value) : outcome = .ok value := by
  cases outcome with
  | error failure => cases found
  | ok result => rw [Option.some.inj found]

theorem Except.exists_error_of_toOption {Failure Result : Type} {outcome : Except Failure Result}
    (absent : outcome.toOption = none) : ∃ failure, outcome = .error failure := by
  cases outcome with
  | error failure => exact ⟨failure, rfl⟩
  | ok result => cases absent

theorem Except.exists_ok_of_isSome {Failure Result Later : Type}
    {performed : Except Failure Result × Later} (succeeds : performed.1.toOption.isSome) :
    ∃ result later, performed = (.ok result, later) := by
  rcases performed with ⟨failure | result, later⟩
  · cases succeeds
  · exact ⟨result, later, rfl⟩

@[simp]
theorem Except.mapError_ok {Failure Other Result : Type} (express : Failure → Other)
    (value : Result) : (Except.ok value).mapError express = .ok value :=
  rfl

namespace Task

variable {Failure OtherFailure Result Other : Type} {holder : Holder} {world after : World}

/-- Performs a task for a holder of locks. -/
def perform (holder : Holder) (task : Task Failure Result) (world : World) :
    Except Failure Result × World :=
  task.run.run holder world

@[simp]
theorem perform_pure (value : Result) :
    (pure value : Task Failure Result).perform holder world = (.ok value, world) :=
  rfl

@[simp]
theorem perform_throw (failure : Failure) :
    (throw failure : Task Failure Result).perform holder world = (.error failure, world) :=
  rfl

@[simp]
theorem perform_done (outcome : Except Failure Result) :
    perform holder (ExceptT.mk (.done outcome)) world = (outcome, world) :=
  rfl

@[simp]
theorem perform_liftM (outcome : Except Failure Result) :
    (liftM outcome : Task Failure Result).perform holder world = (outcome, world) := by
  cases outcome <;> rfl

@[simp]
theorem perform_observe (look : View → Result) :
    (observe look : Task Failure Result).perform holder world = (.ok (look world.toView), world) :=
  rfl

@[simp]
theorem perform_inspect (look : View → Except Failure Result) :
    (inspect look).perform holder world = (look world.toView, world) :=
  rfl

@[simp]
theorem perform_change (edit : Edit) :
    (change edit).perform holder world = world.change edit :=
  rfl

@[simp]
theorem perform_start (invocation : Git.Invocation) :
    (start invocation).perform holder world = world.start invocation :=
  rfl

@[simp]
theorem perform_acquire (place : Location) :
    (acquire place).perform holder world = world.acquire holder place :=
  rfl

@[simp]
theorem perform_release (place : Location) :
    (release place : Task Failure Unit).perform holder world =
      (.ok (), world.release holder place) :=
  rfl

/-- A task goes on in the world that its first part leaves, unless that fails. -/
theorem perform_bind (task : Task Failure Result) (next : Result → Task Failure Other) :
    (task >>= next).perform holder world =
      match task.perform holder world with
      | (.ok value, between) => (next value).perform holder between
      | (.error failure, between) => (.error failure, between) := by
  refine (Program.run_bind holder task.run (ExceptT.bindCont next) world).trans ?_
  rw [perform]
  rcases task.run.run holder world with ⟨_ | value, between⟩ <;> rfl

theorem perform_bind_of_ok {task : Task Failure Result} {value : Result} {between : World}
    (first : task.perform holder world = (.ok value, between))
    (next : Result → Task Failure Other) :
    (task >>= next).perform holder world = (next value).perform holder between := by
  rw [perform_bind, first]

theorem perform_bind_of_error {task : Task Failure Result} {failure : Failure} {between : World}
    (first : task.perform holder world = (.error failure, between))
    (next : Result → Task Failure Other) :
    (task >>= next).perform holder world = (.error failure, between) := by
  rw [perform_bind, first]

theorem perform_mapFailure (express : Failure → OtherFailure) (task : Task Failure Result) :
    (task.mapFailure express).perform holder world =
      ((task.perform holder world).1.mapError express, (task.perform holder world).2) :=
  Program.run_bind holder task.run _ world

theorem perform_outcome (task : Task Failure Result) :
    (task.outcome : Task OtherFailure _).perform holder world =
      (.ok (task.perform holder world).1, (task.perform holder world).2) :=
  Program.run_bind holder task.run _ world

theorem perform_attempt (task : Task Failure Result) :
    (task.attempt : Task OtherFailure Unit).perform holder world =
      (.ok (), (task.perform holder world).2) :=
  Program.run_bind holder task.run _ world

/-- Two attempts are both made, whatever the first one comes to. -/
theorem perform_attempts {FirstFailure SecondFailure : Type} (first : Task FirstFailure Result)
    (second : Task SecondFailure Other) :
    (first.attempt >>= fun _ => second.attempt : Task Failure Unit).perform holder world =
      (.ok (), (second.perform holder (first.perform holder world).2).2) := by
  rw [perform_bind, perform_attempt]
  exact perform_attempt second

theorem perform_thenAlways (task : Task Failure Result) (last : Task Failure Unit) :
    (task.thenAlways last).perform holder world =
      ((task.perform holder world).1,
        (last.perform holder (task.perform holder world).2).2) := by
  refine (Program.run_bind holder task.run _ world).trans ?_
  exact Program.run_bind holder last.run _ _

theorem perform_compensate (task : Task Failure Result) (remedy : Task Failure Unit) :
    (task.compensate remedy).perform holder world =
      match task.perform holder world with
      | (.ok value, between) => (.ok value, between)
      | (.error failure, between) => (.error failure, (remedy.perform holder between).2) := by
  refine (Program.run_bind holder task.run _ world).trans ?_
  rw [perform]
  rcases task.run.run holder world with ⟨failure | value, between⟩
  · exact Program.run_bind holder remedy.run _ between
  · rfl

/-- Whether every failure of a task is of a certain kind. -/
def FailsBy (kind : Failure → Prop) (task : Task Failure Result) : Prop :=
  ∀ holder world failure after, task.perform holder world = (.error failure, after) → kind failure

theorem FailsBy.bind {kind : Failure → Prop} {task : Task Failure Result}
    {next : Result → Task Failure Other} (first : task.FailsBy kind)
    (second : ∀ value, (next value).FailsBy kind) : (task >>= next).FailsBy kind := by
  intro holder world failure after failed
  rw [perform_bind] at failed
  rcases performed : task.perform holder world with ⟨reason | value, between⟩
  · simp only [performed, Prod.mk.injEq, Except.error.injEq] at failed
    rw [← failed.1]
    exact first holder world reason between performed
  · simp only [performed] at failed
    exact second value holder between failure after failed

end Task

namespace World

@[simp]
theorem withFiles_files (world : World) (files : FileTree) :
    (world.withFiles files).files = files :=
  rfl

@[simp]
theorem withFiles_withFiles (world : World) (first second : FileTree) :
    (world.withFiles first).withFiles second = world.withFiles second :=
  rfl

@[simp]
theorem withFiles_self (world : World) : world.withFiles world.files = world :=
  rfl

/-- Whether a world differs from another one in its files at most. -/
def SameOutside (before after : World) : Prop :=
  after = before.withFiles after.files

theorem change_of_ok (world : World) (edit : Edit) {files : FileTree}
    (made : edit.apply world.files = .ok files) :
    world.change edit = (.ok (), world.withFiles files) := by
  rw [change, made]

theorem change_of_error (world : World) (edit : Edit) {failure : OsError}
    (refused : edit.apply world.files = .error failure) :
    world.change edit = (.error failure, world) := by
  rw [change, refused]

/-- A change that is done gives the files that the edit makes. -/
theorem apply_of_change {world after : World} {edit : Edit}
    (changed : world.change edit = (.ok (), after)) :
    ∃ files, edit.apply world.files = .ok files ∧ after = world.withFiles files := by
  rcases made : edit.apply world.files with failure | files
  · rw [change_of_error world edit made] at changed
    cases changed
  · rw [change_of_ok world edit made] at changed
    cases changed
    exact ⟨files, rfl, rfl⟩

/-- A change that fails changes nothing. -/
theorem eq_of_change {world after : World} {edit : Edit} {failure : OsError}
    (refused : world.change edit = (.error failure, after)) : after = world := by
  rcases made : edit.apply world.files with error | files
  · rw [change_of_error world edit made] at refused
    cases refused
    rfl
  · rw [change_of_ok world edit made] at refused
    cases refused

theorem git_change (edit : Edit) (world : World) : (world.change edit).2.git = world.git := by
  rcases made : edit.apply world.files with failure | files
  · rw [change_of_error world edit made]
  · rw [change_of_ok world edit made]
    rfl

theorem git_start (invocation : Git.Invocation) (world : World) :
    (world.start invocation).2.git = world.git := by
  rcases startable : world.startFailure? invocation with _ | failure
  · simp only [start, startable]
  · simp only [start, startable]

theorem git_acquire (holder : Holder) (place : Location) (world : World) :
    (world.acquire holder place).2.git = world.git := by
  rcases opened : world.files.openFile place with failure | files
  · simp only [acquire, opened]
  · rcases held : files.hold? holder place with _ | taken
    · simp only [acquire, opened, held]
      rfl
    · simp only [acquire, opened, held]
      rfl

theorem exchanges_change (edit : Edit) (world : World) :
    (world.change edit).2.exchanges = world.exchanges := by
  rcases made : edit.apply world.files with failure | files
  · rw [change_of_error world edit made]
  · rw [change_of_ok world edit made]
    rfl

theorem exchanges_start (invocation : Git.Invocation) (world : World) :
    world.exchanges <:+ (world.start invocation).2.exchanges := by
  rcases startable : world.startFailure? invocation with _ | failure
  · simp only [start, startable]
    exact List.suffix_cons _ _
  · simp only [start, startable]
    exact List.suffix_rfl

theorem exchanges_acquire (holder : Holder) (place : Location) (world : World) :
    (world.acquire holder place).2.exchanges = world.exchanges := by
  rcases opened : world.files.openFile place with failure | files
  · simp only [acquire, opened]
  · rcases held : files.hold? holder place with _ | taken
    · simp only [acquire, opened, held]
      rfl
    · simp only [acquire, opened, held]
      rfl

end World

/-- No program changes how git answers. -/
theorem Program.git_run {Result : Type} (program : Program Result) (holder : Holder)
    (world : World) : (program.run holder world).2.git = world.git := by
  induction program generalizing world with
  | done value => rfl
  | observe next ih => exact ih world.toView world
  | change edit next ih => exact (ih _ _).trans (World.git_change edit world)
  | start invocation next ih => exact (ih _ _).trans (World.git_start invocation world)
  | acquire place next ih => exact (ih _ _).trans (World.git_acquire holder place world)
  | release place next ih => exact ih _

theorem Task.git_perform {Failure Result : Type} (task : Task Failure Result) (holder : Holder)
    (world : World) : (task.perform holder world).2.git = world.git :=
  task.run.git_run holder world

-- A program is taken apart by the lemmas above and never by computation.
attribute [irreducible] Task.perform

end MemoryKeeper

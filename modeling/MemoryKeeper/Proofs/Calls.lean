import MemoryKeeper.Proofs.Sessions

/-!
# Calls of git

What a program asks of git is the list of its calls, in order. A call is made
whether or not its process can be started, so the list shows what was asked even
where no exchange came of it. It is read off the same tree of steps that is run,
and the exchanges of a run are those of its calls.

What every call of a task satisfies follows from the parts that the task is put
together from. A task that calls nothing is the special case in which no call is
allowed.
-/

namespace MemoryKeeper

open MemoryKeeper.Path (Location)

/-- A call of git: the world in which it was made, and the process that was asked for. -/
structure Call where
  world : World
  invocation : Git.Invocation

namespace Call

/-- What came of a call. -/
def answer (call : Call) : Except Git.StartFailure Git.Completion :=
  (call.world.start call.invocation).1

/-- The world that a call left. -/
def after (call : Call) : World :=
  (call.world.start call.invocation).2

/-- Whether the process of a call was started and exited with status zero. -/
def Succeeded (call : Call) : Prop :=
  ∃ completion, call.answer = .ok completion ∧ completion.code = some 0

/-- The exchange of a call whose process could be started. -/
def exchange? (call : Call) : Option Exchange :=
  match call.world.startFailure? call.invocation with
  | some _ => none
  | none =>
    some ⟨call.invocation, call.world.files,
      call.world.git call.world.exchanges call.invocation call.world.files⟩

end Call

namespace Program

variable {Result Other : Type} {allowed : Git.Invocation → Prop} {program : Program Result}

/-- The calls of git that a program makes when it is run for a holder of locks. -/
def calls (holder : Holder) : Program Result → World → List Call
  | .done _, _ => []
  | .observe next, world => (next world.toView).calls holder world
  | .change edit next, world => (next (world.change edit).1).calls holder (world.change edit).2
  | .start invocation next, world =>
    ⟨world, invocation⟩ ::
      (next (world.start invocation).1).calls holder (world.start invocation).2
  | .acquire place next, world =>
    (next (world.acquire holder place).1).calls holder (world.acquire holder place).2
  | .release place next, world => next.calls holder (world.release holder place)

theorem calls_bind (holder : Holder) (program : Program Result)
    (continuation : Result → Program Other) (world : World) :
    (program.bind continuation).calls holder world =
      program.calls holder world ++ (continuation (program.run holder world).1).calls holder
        (program.run holder world).2 := by
  induction program generalizing world with
  | done value => rfl
  | observe next ih => exact ih world.toView world
  | change edit next ih => exact ih _ _
  | start invocation next ih => exact congrArg (_ :: ·) (ih _ _)
  | acquire place next ih => exact ih _ _
  | release place next ih => exact ih _

/-- The exchanges of a run are those of its calls, the last one first. -/
theorem exchanges_run (holder : Holder) (program : Program Result) (world : World) :
    (program.run holder world).2.exchanges =
      ((program.calls holder world).filterMap Call.exchange?).reverse ++ world.exchanges := by
  induction program generalizing world with
  | done value => rfl
  | observe next ih => exact ih world.toView world
  | change edit next ih =>
      rw [← World.exchanges_change edit world]
      exact ih _ _
  | start invocation next ih =>
      refine (ih _ _).trans ?_
      rcases startable : world.startFailure? invocation with _ | failure
      · have exchange : Call.exchange? ⟨world, invocation⟩ =
            some ⟨invocation, world.files, world.git world.exchanges invocation world.files⟩ := by
          rw [Call.exchange?, startable]
        rw [calls, List.filterMap_cons_some exchange, List.reverse_cons, List.append_assoc,
          World.start_of_none startable]
        rfl
      · have noExchange : Call.exchange? ⟨world, invocation⟩ = none := by
          rw [Call.exchange?, startable]
        rw [calls, List.filterMap_cons_none noExchange, World.start_of_some startable]
  | acquire place next ih =>
      rw [← World.exchanges_acquire holder place world]
      exact ih _ _
  | release place next ih => exact ih _

/-- Whether a program makes only calls that are allowed, in every world. -/
def Issues (allowed : Git.Invocation → Prop) (program : Program Result) : Prop :=
  ∀ (holder : Holder) (world : World), ∀ call ∈ program.calls holder world,
    allowed call.invocation

theorem issues_done (value : Result) : (done value).Issues allowed := by
  intro _ _ call made
  cases made

theorem Issues.bind {next : Result → Program Other} (issues : program.Issues allowed)
    (onward : ∀ value, (next value).Issues allowed) : (program.bind next).Issues allowed := by
  intro holder world call made
  rw [calls_bind] at made
  rcases List.mem_append.mp made with early | late
  · exact issues holder world call early
  · exact onward _ holder _ call late

end Program

namespace Task

variable {Failure OtherFailure Result Other : Type} {allowed : Git.Invocation → Prop}
  {task : Task Failure Result} {holder : Holder} {world : World}

/-- The calls of git that a task makes. -/
def calls (holder : Holder) (task : Task Failure Result) (world : World) : List Call :=
  task.run.calls holder world

theorem calls_bind (task : Task Failure Result) (next : Result → Task Failure Other) :
    (task >>= next).calls holder world =
      task.calls holder world ++
        match task.perform holder world with
        | (.ok value, between) => (next value).calls holder between
        | (.error _, _) => [] := by
  refine (Program.calls_bind holder task.run (ExceptT.bindCont next) world).trans ?_
  rw [perform]
  rcases task.run.run holder world with ⟨failure | value, between⟩ <;> rfl

theorem calls_bind_of_ok {value : Result} {between : World}
    (first : task.perform holder world = (.ok value, between))
    (next : Result → Task Failure Other) :
    (task >>= next).calls holder world =
      task.calls holder world ++ (next value).calls holder between := by
  rw [calls_bind, first]

theorem calls_bind_of_error {failure : Failure} {between : World}
    (first : task.perform holder world = (.error failure, between))
    (next : Result → Task Failure Other) :
    (task >>= next).calls holder world = task.calls holder world := by
  rw [calls_bind, first, List.append_nil]

theorem calls_bind_pure (task : Task Failure Result) (value : Result → Other) :
    (task >>= fun result => pure (value result)).calls holder world = task.calls holder world := by
  rw [calls_bind]
  rcases task.perform holder world with ⟨failure | result, between⟩
  · exact List.append_nil _
  · exact List.append_nil _

theorem calls_mapFailure (express : Failure → OtherFailure) (task : Task Failure Result) :
    (task.mapFailure express).calls holder world = task.calls holder world :=
  (Program.calls_bind holder task.run _ world).trans (List.append_nil _)

theorem calls_outcome (task : Task Failure Result) :
    (task.outcome : Task OtherFailure _).calls holder world = task.calls holder world :=
  (Program.calls_bind holder task.run _ world).trans (List.append_nil _)

theorem calls_attempt (task : Task Failure Result) :
    (task.attempt : Task OtherFailure Unit).calls holder world = task.calls holder world :=
  (Program.calls_bind holder task.run _ world).trans (List.append_nil _)

theorem calls_attempts {FirstFailure SecondFailure : Type} (first : Task FirstFailure Result)
    (second : Task SecondFailure Other) :
    (first.attempt >>= fun _ => second.attempt : Task Failure Unit).calls holder world =
      first.calls holder world ++ second.calls holder (first.perform holder world).2 := by
  rw [calls_bind, perform_attempt, calls_attempt]
  exact congrArg (_ ++ ·) (calls_attempt second)

theorem calls_thenAlways (task : Task Failure Result) (last : Task Failure Unit) :
    (task.thenAlways last).calls holder world =
      task.calls holder world ++ last.calls holder (task.perform holder world).2 := by
  refine (Program.calls_bind holder task.run _ world).trans ?_
  rw [perform]
  exact congrArg (_ ++ ·) ((Program.calls_bind holder last.run _ _).trans (List.append_nil _))

theorem calls_compensate (task : Task Failure Result) (remedy : Task Failure Unit) :
    (task.compensate remedy).calls holder world =
      task.calls holder world ++
        match task.perform holder world with
        | (.ok _, _) => []
        | (.error _, between) => remedy.calls holder between := by
  refine (Program.calls_bind holder task.run _ world).trans ?_
  rw [perform]
  rcases task.run.run holder world with ⟨failure | value, between⟩
  · exact congrArg (_ ++ ·) ((Program.calls_bind holder remedy.run _ _).trans (List.append_nil _))
  · rfl

/-- Whether a task makes only calls that are allowed, in every world. -/
def Issues (allowed : Git.Invocation → Prop) (task : Task Failure Result) : Prop :=
  task.run.Issues allowed

/-- Whether a task makes no call. -/
abbrev IsSilent (task : Task Failure Result) : Prop :=
  task.Issues fun _ => False

theorem IsSilent.calls_eq_nil (silent : task.IsSilent) (holder : Holder) (world : World) :
    task.calls holder world = [] :=
  List.eq_nil_iff_forall_not_mem.mpr (silent holder world)

theorem IsSilent.issues (silent : task.IsSilent) : task.Issues allowed := by
  intro holder world call made
  cases silent holder world call made

/-- A task that makes one call in every world makes only allowed calls if that one is. -/
theorem issues_of_single {invocation : Git.Invocation}
    (single : ∀ holder world, task.calls holder world = [⟨world, invocation⟩])
    (isAllowed : allowed invocation) : task.Issues allowed := by
  intro holder world call made
  have isSingle : call ∈ [⟨world, invocation⟩] := single holder world ▸ made
  rw [List.mem_singleton.mp isSingle]
  exact isAllowed

theorem issues_pure (value : Result) : (pure value : Task Failure Result).Issues allowed :=
  Program.issues_done _

theorem issues_throw (failure : Failure) : (throw failure : Task Failure Result).Issues allowed :=
  Program.issues_done _

theorem issues_inspect (look : View → Except Failure Result) : (inspect look).Issues allowed := by
  intro _ _ call made
  cases made

theorem issues_observe (look : View → Result) :
    (observe look : Task Failure Result).Issues allowed := by
  intro _ _ call made
  cases made

theorem issues_change (edit : Edit) : (change edit).Issues allowed := by
  intro _ _ call made
  cases made

theorem issues_acquire (place : Location) : (acquire place).Issues allowed := by
  intro _ _ call made
  cases made

theorem issues_release (place : Location) :
    (release place : Task Failure Unit).Issues allowed := by
  intro _ _ call made
  cases made

theorem Issues.bind {next : Result → Task Failure Other} (issues : task.Issues allowed)
    (onward : ∀ value, (next value).Issues allowed) : (task >>= next).Issues allowed := by
  have behind : ∀ answer, (ExceptT.bindCont next answer).Issues allowed := by
    rintro (failure | value)
    · exact Program.issues_done _
    · exact onward value
  exact Program.Issues.bind issues behind

/-- What follows a test is done only if that passed. -/
theorem issues_test {outcome : Except Failure Result} {next : Result → Task Failure Other}
    (onward : ∀ value, outcome = .ok value → (next value).Issues allowed) :
    ((liftM outcome : Task Failure Result) >>= next).Issues allowed := by
  cases outcome with
  | error failure => exact Program.issues_done _
  | ok value => exact onward value rfl

theorem Issues.mapFailure (issues : task.Issues allowed) (express : Failure → OtherFailure) :
    (task.mapFailure express).Issues allowed :=
  Program.Issues.bind issues fun _ => Program.issues_done _

theorem Issues.attempt (issues : task.Issues allowed) :
    (task.attempt : Task OtherFailure Unit).Issues allowed :=
  Program.Issues.bind issues fun _ => Program.issues_done _

theorem Issues.thenAlways {last : Task Failure Unit} (issues : task.Issues allowed)
    (ending : last.Issues allowed) : (task.thenAlways last).Issues allowed :=
  Program.Issues.bind issues fun _ => Program.Issues.bind ending fun _ => Program.issues_done _

theorem Issues.compensate {remedy : Task Failure Unit} (issues : task.Issues allowed)
    (remedies : remedy.Issues allowed) : (task.compensate remedy).Issues allowed := by
  refine Program.Issues.bind issues fun answer => ?_
  cases answer with
  | error failure => exact Program.Issues.bind remedies fun _ => Program.issues_done _
  | ok value => exact Program.issues_done _

end Task

namespace Storage

variable {storage : Storage} {entry : MemoryEntry}

theorem silent_change (edit : Edit) : (storage.change entry edit).IsSilent :=
  (Task.issues_change edit).mapFailure _

theorem silent_read : (storage.read entry).IsSilent :=
  Task.issues_inspect _

theorem silent_write (text : String) : (storage.write entry text).IsSilent := by
  rw [write]
  refine (silent_change _).bind fun _ => ?_
  refine (silent_change _).bind fun _ => ?_
  refine (silent_change _).bind fun _ => ?_
  refine (silent_change _).bind fun _ => ?_
  exact silent_change _

theorem silent_create (content : String) : (storage.create entry content).IsSilent := by
  rw [create]
  refine (Task.issues_inspect _).bind fun document => ?_
  refine (silent_write _).bind fun _ => ?_
  exact Task.issues_pure entry

theorem silent_update (content : String) : (storage.update entry content).IsSilent := by
  rw [update]
  refine (Task.issues_inspect _).bind fun document => ?_
  refine (silent_write _).bind fun _ => ?_
  exact Task.issues_pure _

theorem silent_lock : storage.lock.IsSilent := by
  rw [lock]
  refine ((Task.issues_change _).mapFailure _).bind fun _ => ?_
  refine ((Task.issues_acquire _).mapFailure _).bind fun free => ?_
  cases free with
  | true => exact Task.issues_pure ()
  | false => exact Task.issues_throw _

theorem silent_unlock {Failure : Type} : (storage.unlock : Task Failure Unit).IsSilent :=
  Task.issues_release _

end Storage

namespace Session

variable {session : Session} {allowed : Git.Invocation → Prop} {holder : Holder}
  {world locked : World} {entry : MemoryEntry} {verb : String}

/-- What stands before the arguments of a call: paths are to be printed as they are, and the
identity is given that a repository's settings name with both its halves. -/
def leading : Option RepositorySettings → List String
  | some ⟨_, some name, some email⟩ =>
    ["-c", "core.quotepath=off", "-c", "user.name=" ++ name, "-c", "user.email=" ++ email]
  | _ => ["-c", "core.quotepath=off"]

theorem arguments_invocation (session : Session) (arguments : List String) :
    (session.invocation arguments).arguments = leading session.config.repository ++ arguments := by
  simp only [invocation, Git.Settings.invocation, Git.Settings.arguments, Config.git,
    Config.identity?, List.append_cancel_right_eq]
  rcases session.config.repository with _ | ⟨start, name, email⟩
  · rfl
  · cases name <;> cases email <;> rfl

theorem silent_head : session.head.IsSilent :=
  Task.issues_inspect _

theorem silent_resolve? (reference : String) : (session.resolve? reference).IsSilent :=
  Task.issues_observe _

theorem silent_resolve (reference : String) : (session.resolve reference).IsSilent := by
  rw [resolve]
  refine (silent_resolve? reference).bind fun found => ?_
  cases found with
  | none => exact Task.issues_throw _
  | some entry => exact Task.issues_pure entry

theorem calls_git (arguments : List String) (accepted : List Int) :
    (session.git arguments accepted).calls holder world =
      [⟨world, session.invocation arguments⟩] := by
  rw [git, Task.calls_bind, Task.calls_outcome, Task.perform_outcome]
  rfl

theorem issues_git {arguments : List String} (isAllowed : allowed (session.invocation arguments))
    (accepted : List Int) : (session.git arguments accepted).Issues allowed :=
  Task.issues_of_single (fun _ _ => calls_git arguments accepted) isAllowed

theorem calls_commit (verb : String) (entry : MemoryEntry) :
    (session.commit verb entry).calls holder world =
      [⟨world, session.invocation
        ["commit", "-q", "-m", session.subject verb entry, "--", entry.relativePath]⟩] := by
  rw [commit, runGit, Task.calls_bind, calls_git]
  generalize (session.git _ [0]).perform holder world = performed
  rcases performed with ⟨failure | completion, between⟩
  · rfl
  · dsimp only
    rw [Task.calls_bind, silent_head.calls_eq_nil]
    rcases session.head.perform holder between with ⟨failure | _ | identifier, after⟩
    · rfl
    · rfl
    · rfl

theorem issues_commit (isAllowed : allowed (session.invocation
      ["commit", "-q", "-m", session.subject verb entry, "--", entry.relativePath])) :
    (session.commit verb entry).Issues allowed :=
  Task.issues_of_single (fun _ _ => calls_commit verb entry) isAllowed

theorem issues_exclusively {Result : Type} {task : Task ExecutionError Result}
    (issues : task.Issues allowed) : (session.exclusively task).Issues allowed := by
  rw [exclusively]
  refine (Task.issues_inspect _).bind fun _ => ?_
  refine (Storage.silent_lock.issues.mapFailure _).bind fun _ => ?_
  exact issues.thenAlways Storage.silent_unlock.issues

/-- A command that may begin makes its calls behind the lock. -/
theorem calls_exclusively {Result : Type} {task : Task ExecutionError Result}
    (entered : session.enter? holder world = some locked) :
    (session.exclusively task).calls holder world = task.calls holder locked := by
  rcases enter?_eq_some entered with ⟨clean, taken⟩
  have looked : (Task.inspect fun view =>
      (session.repository.ensureClean view.files).mapError ExecutionError.git).perform
        holder world = (.ok (), world) := by
    rw [perform_ensureClean, clean]
    rfl
  have locks : (session.storage.lock.mapFailure ExecutionError.lock).perform holder world =
      (.ok (), locked) := by
    rw [Task.perform_mapFailure, taken]
    rfl
  rw [exclusively, Task.calls_bind_of_ok looked, Task.calls_bind_of_ok locks,
    Task.calls_thenAlways, Task.calls_mapFailure, Storage.silent_lock.calls_eq_nil,
    Storage.silent_unlock.calls_eq_nil, List.append_nil]
  rfl

end Session

end MemoryKeeper

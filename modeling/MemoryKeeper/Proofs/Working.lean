import MemoryKeeper.Proofs.Holding
import MemoryKeeper.Proofs.Rollback

/-!
# What a command does while it has the lock

Behind the lock a command that changes memories looks up one memory and works on
that one only: it writes its draft, moves the draft to the memory's place, and
calls git, which may remove the memory's file or put it back. Only a creation
discards the file itself, and only after its commit failed.

What a program may still do is read off its tree of steps, for all answers of the
world at once, so it holds whatever others do between the steps.
-/

namespace MemoryKeeper

open MemoryKeeper.Path (Location)

namespace Session

/-- A program that works on one memory. Of what it has learned about the world it is kept whether
the memory's file must be there; a goal tells what it may come to, knowing that. -/
inductive Works (session : Session) (entry : MemoryEntry) (discards : Prop) {Result : Type}
    (goal : Bool → Result → Prop) : Bool → Program Result → Prop where
  | done {known : Bool} {value : Result} (reached : goal known value) :
      Works session entry discards goal known (.done value)
  | observe {known : Bool} {next : View → Program Result}
      (onward : ∀ view, Works session entry discards goal known (next view)) :
      Works session entry discards goal known (.observe next)
  /-- A change that touches no memory's file and not the lock's. -/
  | prepare {known : Bool} {edit : Edit} {next : Except OsError Unit → Program Result}
      (aside : ∀ other, session.storage.place other ∉ edit.places)
      (noLock : session.storage.lockPlace ∉ edit.places)
      (onward : ∀ answer, Works session entry discards goal known (next answer)) :
      Works session entry discards goal known (.change edit next)
  | move {known : Bool} {next : Except OsError Unit → Program Result}
      (refused : ∀ failure, Works session entry discards goal known (next (.error failure)))
      (moved : Works session entry discards goal true (next (.ok ()))) :
      Works session entry discards goal known
        (.change (.rename (session.storage.draftPlace entry) (session.storage.place entry)) next)
  | discard {known : Bool} {next : Except OsError Unit → Program Result} (allowed : discards)
      (onward : ∀ answer, Works session entry discards goal false (next answer)) :
      Works session entry discards goal known
        (.change (.removeFile (session.storage.place entry)) next)
  | call {known : Bool} {arguments : List String}
      {next : Except Git.StartFailure Git.Completion → Program Result}
      (passive : session.isPassive (session.invocation arguments))
      (onward : ∀ answer, Works session entry discards goal known (next answer)) :
      Works session entry discards goal known (.start (session.invocation arguments) next)
  | remove {known : Bool} {next : Except Git.StartFailure Git.Completion → Program Result}
      (onward : ∀ answer, Works session entry discards goal false (next answer)) :
      Works session entry discards goal known (.start (session.removal entry) next)
  | recover {known : Bool} {next : Except Git.StartFailure Git.Completion → Program Result}
      (onward : ∀ answer, Works session entry discards goal known (next answer)) :
      Works session entry discards goal known (.start (session.recovery entry) next)

namespace Works

variable {session : Session} {entry : MemoryEntry} {discards : Prop}

section Programs

variable {Result Other : Type} {goal : Bool → Result → Prop} {later : Bool → Other → Prop}
  {known : Bool} {program : Program Result}

theorem bind {next : Result → Program Other}
    (works : session.Works entry discards goal known program)
    (onward : ∀ known value, goal known value →
      session.Works entry discards later known (next value)) :
    session.Works entry discards later known (program.bind next) := by
  induction works with
  | done reached => exact onward _ _ reached
  | observe _ ih => exact .observe ih
  | prepare aside noLock _ ih => exact .prepare aside noLock ih
  | move _ _ refused moved => exact .move refused moved
  | discard allowed _ ih => exact .discard allowed ih
  | call passive _ ih => exact .call passive ih
  | remove _ ih => exact .remove ih
  | recover _ ih => exact .recover ih

theorem mono {wider : Bool → Result → Prop}
    (works : session.Works entry discards goal known program)
    (reaches : ∀ known value, goal known value → wider known value) :
    session.Works entry discards wider known program := by
  induction works with
  | done reached => exact .done (reaches _ _ reached)
  | observe _ ih => exact .observe ih
  | prepare aside noLock _ ih => exact .prepare aside noLock ih
  | move _ _ refused moved => exact .move refused moved
  | discard allowed _ ih => exact .discard allowed ih
  | call passive _ ih => exact .call passive ih
  | remove _ ih => exact .remove ih
  | recover _ ih => exact .recover ih

end Programs

section Tasks

variable {Failure OtherFailure Result Other : Type} {task : Task Failure Result} {known : Bool}
  {goal : Bool → Except Failure Result → Prop}

/-- A task that fails goes on with nothing. -/
theorem bind_task {next : Result → Task Failure Other} {later : Bool → Except Failure Other → Prop}
    (works : session.Works entry discards goal known task.run)
    (onward : ∀ known value, goal known (.ok value) →
      session.Works entry discards later known (next value).run)
    (failed : ∀ known failure, goal known (.error failure) → later known (.error failure)) :
    session.Works entry discards later known (task >>= next).run := by
  have behind : ∀ known answer, goal known answer →
      session.Works entry discards later known (ExceptT.bindCont next answer) := by
    rintro known (failure | value) reached
    · exact .done (failed known failure reached)
    · exact onward known value reached
  exact works.bind behind

theorem mapFailure {express : Failure → OtherFailure}
    {later : Bool → Except OtherFailure Result → Prop}
    (works : session.Works entry discards goal known task.run)
    (reaches : ∀ known answer, goal known answer → later known (answer.mapError express)) :
    session.Works entry discards later known (task.mapFailure express).run :=
  works.bind fun known answer reached => .done (reaches known answer reached)

theorem attempt (works : session.Works entry discards goal known task.run) :
    session.Works entry discards (fun _ _ => True) known
      (task.attempt : Task OtherFailure Unit).run :=
  works.bind fun _ _ _ => .done trivial

/-- Two attempts are both made, whatever the first one comes to. -/
theorem attempts {second : Task OtherFailure Other} {LastFailure : Type}
    (works : session.Works entry discards goal known task.run)
    (continues : ∀ known, session.Works entry discards (fun _ _ => True) known second.run) :
    session.Works entry discards (fun _ _ => True) known
      (task.attempt >>= fun _ => second.attempt : Task LastFailure Unit).run :=
  works.attempt.bind_task (fun later _ _ => (continues later).attempt) fun _ _ _ => trivial

/-- A remedy may come to anything, since the failure is passed on. -/
theorem compensate {remedy : Task Failure Unit} {later : Bool → Except Failure Result → Prop}
    (works : session.Works entry discards goal known task.run)
    (succeeded : ∀ known value, goal known (.ok value) → later known (.ok value))
    (remedies : ∀ known, session.Works entry discards (fun _ _ => True) known remedy.run)
    (failed : ∀ known failure, later known (.error failure)) :
    session.Works entry discards later known (task.compensate remedy).run := by
  refine works.bind ?_
  rintro known (failure | value) reached
  · exact (remedies known).bind fun known _ _ => .done (failed known failure)
  · exact .done (succeeded known value reached)

theorem inspecting {look : View → Except Failure Result} (reached : ∀ answer, goal known answer) :
    session.Works entry discards goal known (Task.inspect look).run :=
  .observe fun _ => .done (reached _)

end Tasks

/-- Git is called in passing. -/
theorem runGit {arguments : List String} {known : Bool}
    (passive : session.isPassive (session.invocation arguments)) :
    session.Works entry discards (fun later _ => later = known) known
      (session.runGit arguments).run :=
  .call passive fun _ => .done rfl

theorem removing {known : Bool} :
    session.Works entry discards (fun _ _ => True) known
      (session.runGit ["rm", "-q", "--", entry.relativePath]).run :=
  .remove fun _ => .done trivial

theorem recovering {known : Bool} :
    session.Works entry discards (fun _ _ => True) known
      (session.runGit ["checkout", "HEAD", "--", entry.relativePath]).run :=
  .recover fun _ => .done trivial

theorem commit {verb : String} {known : Bool} :
    session.Works entry discards (fun later _ => later = known) known
      (session.commit verb entry).run := by
  have headed : session.Works entry discards (fun later _ => later = known) known
      session.head.run := inspecting fun _ => rfl
  apply (runGit (isPassive_invocation (by decide) (by decide))).bind_task
  · rintro later _ rfl
    apply headed.bind_task
    · rintro later (_ | identifier) rfl
      · exact .done rfl
      · exact .done rfl
    · rintro later _ rfl
      rfl
  · rintro later _ rfl
    rfl

theorem addAndCommit {verb : String} {known : Bool} :
    session.Works entry discards (fun later _ => later = known) known
      (session.addAndCommit verb entry).run := by
  apply (runGit (isPassive_invocation (by decide) (by decide))).bind_task
  · rintro later _ rfl
    exact commit
  · rintro later _ rfl
    rfl

/-- What a task comes to that leaves the memory's file behind if it succeeds. -/
def Leaves {Failure Result : Type} (known : Bool) (answer : Except Failure Result) : Prop :=
  answer.toOption.isSome → known = true

theorem changing {edit : Edit} {rest : Task StoreError Unit} {known : Bool}
    (aside : ∀ other, session.storage.place other ∉ edit.places)
    (noLock : session.storage.lockPlace ∉ edit.places)
    (works : session.Works entry discards Leaves known rest.run) :
    session.Works entry discards Leaves known
      (session.storage.change entry edit >>= fun _ => rest).run := by
  have changes : session.Works entry discards (fun later _ => later = known) known
      (session.storage.change entry edit).run := .prepare aside noLock fun _ => .done rfl
  apply changes.bind_task
  · rintro later _ rfl
    exact works
  · intro later failure _ succeeds
    cases succeeds

/-- After a write that was done the memory's file is there. -/
theorem write {text : String} {known : Bool} :
    session.Works entry discards Leaves known (session.storage.write entry text).run := by
  have aside : ∀ other, session.storage.place other ∉ [session.storage.draftPlace entry] := by
    intro other
    simpa using session.storage.place_ne_draftPlace other entry
  have noLock : session.storage.lockPlace ∉ [session.storage.draftPlace entry] := by
    simpa using (session.storage.draftPlace_ne_lockPlace entry).symm
  -- The directories, the draft, its text and its way to the disk touch no memory's file.
  apply changing (fun _ => List.not_mem_nil) List.not_mem_nil
  apply changing aside noLock
  apply changing aside noLock
  apply changing (fun _ => List.not_mem_nil) List.not_mem_nil
  refine .move ?_ (.done fun _ => rfl)
  intro failure
  apply Works.done
  intro succeeds
  cases succeeds

theorem discarding {known : Bool} (allowed : discards) :
    session.Works entry discards (fun _ _ => True) known (session.storage.discard entry).run :=
  .discard allowed fun _ => .done trivial

theorem reading {known : Bool} :
    session.Works entry discards (fun _ _ => True) known
      ((session.storage.read entry).mapFailure ExecutionError.store).run :=
  .observe fun _ => .done trivial

theorem updating {content : String} {known : Bool} :
    session.Works entry discards (fun _ _ => True) known
      ((session.storage.update entry content).mapFailure ExecutionError.store).run := by
  have updates : session.Works entry discards (fun _ _ => True) known
      (session.storage.update entry content).run := by
    have inspects : ∀ look : View → Except StoreError Document,
        session.Works entry discards (fun _ _ => True) known (Task.inspect look).run :=
      fun _ => inspecting fun _ => trivial
    apply (inspects _).bind_task
    · intro known document _
      apply write.bind_task
      · intro known _ _
        exact .done trivial
      · intro known failure _
        trivial
    · intro known failure _
      trivial
  exact updates.mapFailure fun _ _ _ => trivial

end Works

/-- A program that looks one memory up and then works on that one, or fails at once. What is true of
the memory is true in the files in which it was looked up. -/
inductive LooksUp (session : Session) (discards : Prop) (finds : FileTree → MemoryEntry → Prop)
    {Failure Result : Type} (goal : MemoryEntry → Bool → Except Failure Result → Prop) :
    Program (Except Failure Result) → Prop where
  | observe {next : View → Program (Except Failure Result)}
      (looked : ∀ view, (∃ failure, next view = .done (.error failure)) ∨
        ∃ entry, finds view.files entry ∧
          session.Works entry discards (goal entry) false (next view)) :
      LooksUp session discards finds goal (.observe next)

namespace LooksUp

variable {session : Session} {discards : Prop} {finds : FileTree → MemoryEntry → Prop}
  {Failure OtherFailure Result Other : Type}
  {goal : MemoryEntry → Bool → Except Failure Result → Prop}

theorem bind {program : Program (Except Failure Result)}
    {next : Except Failure Result → Program (Except OtherFailure Other)}
    {later : MemoryEntry → Bool → Except OtherFailure Other → Prop}
    (looks : session.LooksUp discards finds goal program)
    (onward : ∀ entry known answer, goal entry known answer →
      session.Works entry discards (later entry) known (next answer))
    (failed : ∀ failure, ∃ other, next (.error failure) = .done (.error other)) :
    session.LooksUp discards finds later (program.bind next) := by
  rcases looks with ⟨looked⟩
  apply observe
  intro view
  rcases looked view with ⟨failure, ended⟩ | ⟨entry, isFound, works⟩
  · rcases failed failure with ⟨other, passed⟩
    exact .inl ⟨other, by rw [ended]; exact passed⟩
  · exact .inr ⟨entry, isFound, works.bind (onward entry)⟩

variable {task : Task Failure Result}

theorem bind_task {next : Result → Task Failure Other}
    {later : MemoryEntry → Bool → Except Failure Other → Prop}
    (looks : session.LooksUp discards finds goal task.run)
    (onward : ∀ entry known value, goal entry known (.ok value) →
      session.Works entry discards (later entry) known (next value).run)
    (failed : ∀ entry known failure, goal entry known (.error failure) →
      later entry known (.error failure)) :
    session.LooksUp discards finds later (task >>= next).run := by
  have behind : ∀ entry known answer, goal entry known answer →
      session.Works entry discards (later entry) known (ExceptT.bindCont next answer) := by
    rintro entry known (failure | value) reached
    · exact .done (failed entry known failure reached)
    · exact onward entry known value reached
  exact looks.bind behind fun failure => ⟨failure, rfl⟩

theorem mapFailure {express : Failure → OtherFailure}
    {later : MemoryEntry → Bool → Except OtherFailure Result → Prop}
    (looks : session.LooksUp discards finds goal task.run)
    (reaches : ∀ entry known answer, goal entry known answer →
      later entry known (answer.mapError express)) :
    session.LooksUp discards finds later (task.mapFailure express).run :=
  looks.bind (fun entry known answer reached => .done (reaches entry known answer reached))
    fun failure => ⟨express failure, rfl⟩

theorem observing {look : View → Result} {next : Result → Task Failure Other}
    {later : MemoryEntry → Bool → Except Failure Other → Prop}
    (onward : ∀ view, (∃ failure, (next (look view)).run = .done (.error failure)) ∨
      ∃ entry, finds view.files entry ∧
        session.Works entry discards (later entry) false (next (look view)).run) :
    session.LooksUp discards finds later (Task.observe look >>= next).run :=
  .observe onward

theorem inspecting {look : View → Except Failure Result} {next : Result → Task Failure Other}
    {later : MemoryEntry → Bool → Except Failure Other → Prop}
    (onward : ∀ view value, look view = .ok value → ∃ entry, finds view.files entry ∧
      session.Works entry discards (later entry) false (next value).run) :
    session.LooksUp discards finds later (Task.inspect look >>= next).run := by
  refine .observe fun view => ?_
  have behind : ∀ answer, look view = answer →
      (∃ failure, ExceptT.bindCont next answer = .done (.error failure)) ∨
        ∃ entry, finds view.files entry ∧
          session.Works entry discards (later entry) false (ExceptT.bindCont next answer) := by
    rintro (failure | value) looked
    · exact .inl ⟨failure, rfl⟩
    · exact .inr (onward view value looked)
  exact behind (look view) rfl

end LooksUp

/-- The memory that a command finds to work on in the files that it looks it up in. -/
def Finds (session : Session) (command : Command) (files : FileTree) (entry : MemoryEntry) : Prop :=
  match command with
  | .create symbol slug _ =>
    entry = ⟨symbol, slug⟩ ∧ session.storage.find? files slug = none
  | .update reference _ => session.storage.resolve? files reference = some entry
  | .delete reference => session.storage.resolve? files reference = some entry
  | _ => False

variable {session : Session}

theorem looksUp_resolve {discards : Prop} (reference : String) :
    session.LooksUp discards
      (fun files entry => session.storage.resolve? files reference = some entry)
      (fun entry _ answer => ∀ value, answer = .ok value → value = entry)
      (session.resolve reference).run := by
  apply LooksUp.observing
  intro view
  rcases resolved : session.storage.resolve? view.files reference with _ | entry
  · exact .inl ⟨.notAMemory reference, rfl⟩
  · refine .inr ⟨entry, rfl, .done ?_⟩
    intro value returned
    cases returned
    rfl

theorem looksUp_create {discards : Prop} (symbol : Symbol) (slug : Slug) (content : String) :
    session.LooksUp discards
      (fun files entry => entry = ⟨symbol, slug⟩ ∧ session.storage.find? files slug = none)
      (fun entry known answer => ∀ value, answer = .ok value → value = entry ∧ known = true)
      (session.storage.create ⟨symbol, slug⟩ content).run := by
  apply LooksUp.inspecting
  intro view document looked
  refine ⟨⟨symbol, slug⟩, ⟨rfl, ?_⟩, ?_⟩
  · rcases found : session.storage.find? view.files slug with _ | existing
    · rfl
    · simp [found] at looked
  · apply Works.write.bind_task
    · intro known _ there
      apply Works.done
      intro value returned
      cases returned
      exact ⟨rfl, there rfl⟩
    · intro known failure _ value returned
      cases returned

/-- What a command comes to: if it may discard the memory's file and succeeds, the file is there. -/
def Completes (discards : Prop) (known : Bool) (answer : Except ExecutionError Outcome) : Prop :=
  discards → answer.toOption.isSome → known = true

/-- A commit that is made good if it fails, and the outcome that is made of it. -/
theorem Works.compensated {entry : MemoryEntry} {discards : Prop} {known : Bool}
    {committing : Task ExecutionError String} {remedy : Task ExecutionError Unit}
    {outcome : String → Outcome}
    (commits : session.Works entry discards (fun later _ => later = known) known committing.run)
    (remedies : ∀ known, session.Works entry discards (fun _ _ => True) known remedy.run)
    (there : discards → known = true) :
    session.Works entry discards (Completes discards) known (do
      let commit ← committing.compensate remedy
      return outcome commit : Task ExecutionError Outcome).run := by
  have compensates : session.Works entry discards
      (fun later answer => discards → answer.toOption.isSome → later = true) known
      (committing.compensate remedy).run := by
    apply commits.compensate _ remedies
    · intro later failure _ succeeds
      cases succeeds
    · rintro later value rfl discarding _
      exact there discarding
  apply compensates.bind_task
  · intro later commit reached
    exact .done fun discarding _ => reached discarding rfl
  · intro later failure _ _ succeeds
    cases succeeds

/-- Every command that changes memories takes the lock and then looks up what it works on. -/
theorem exists_looksUp {command : Command}
    (mutates : command.operation ∈ [.create, .update, .delete]) :
    ∃ task, session.execute command = session.exclusively task ∧
      session.LooksUp (command.operation = .create) (session.Finds command)
        (fun _ => Completes (command.operation = .create)) task.run := by
  cases command with
  | create symbol slug content =>
      have creates : session.LooksUp (Command.operation (.create symbol slug content) = .create)
          (session.Finds (.create symbol slug content))
          (fun entry known answer => ∀ value, answer = .ok value → value = entry ∧ known = true)
          ((session.storage.create ⟨symbol, slug⟩ content).mapFailure
            ExecutionError.store).run := by
        apply (looksUp_create symbol slug content).mapFailure
        rintro entry known (failure | value) reached
        · intro other returned
          cases returned
        · intro other returned
          cases returned
          exact reached value rfl
      refine ⟨_, rfl, ?_⟩
      apply creates.bind_task
      · intro entry known value reached
        rcases reached value rfl with ⟨rfl, there⟩
        apply Works.addAndCommit.compensated
        · intro known
          exact (Works.runGit (isPassive_invocation (by decide) (by decide))).attempts
            fun _ => Works.discarding rfl
        · intro _
          exact there
      · intro entry known failure _ _ succeeds
        cases succeeds
  | update reference content =>
      refine ⟨_, rfl, ?_⟩
      apply (looksUp_resolve reference).bind_task
      · intro entry known value reached
        rw [reached value rfl]
        apply Works.reading.bind_task
        · intro known previous _
          apply Works.updating.bind_task
          · intro known document _
            apply Works.addAndCommit.compensated
            · intro known
              apply Works.write.attempts
              intro known
              exact (Works.runGit (isPassive_invocation (by decide) (by decide))).mono
                fun _ _ _ => trivial
            · intro discarding
              cases discarding
          · intro known failure _ _ succeeds
            cases succeeds
        · intro known failure _ _ succeeds
          cases succeeds
      · intro entry known failure _ _ succeeds
        cases succeeds
  | delete reference =>
      refine ⟨_, rfl, ?_⟩
      apply (looksUp_resolve reference).bind_task
      · intro entry known value reached
        rw [reached value rfl]
        apply Works.removing.bind_task
        · intro known _ _
          apply Works.commit.compensated
          · intro known
            exact Works.recovering.attempt
          · intro discarding
            cases discarding
        · intro known failure _ _ succeeds
          cases succeeds
      · intro entry known failure _ _ succeeds
        cases succeeds
  | _ => simp [Command.operation] at mutates

end Session

end MemoryKeeper

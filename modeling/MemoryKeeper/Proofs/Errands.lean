import MemoryKeeper.Proofs.Guards
import MemoryKeeper.Proofs.Transcripts

/-!
# One command after another

Processes execute one command each, one after another, with whatever answers of
git. Since every command leaves the lock to those who had it before, nobody has
the lock after a run who did not have it before the run. A command answers that
the lock is taken only if somebody has it, so no command is refused the lock
because of one that has ended, however that one ended.
-/

namespace MemoryKeeper

/-- Whether no failure of a task is that of taking the lock. -/
def Task.IsLockless {Result : Type} (task : Task ExecutionError Result) : Prop :=
  ∀ holder world reason, (task.perform holder world).1 ≠ .error (.lock reason)

namespace Task.IsLockless

variable {Failure Result Other : Type} {task : Task ExecutionError Result}

theorem pure (value : Result) : (Pure.pure value : Task ExecutionError Result).IsLockless := by
  intro _ _ reason failed
  rw [perform_pure] at failed
  cases failed

theorem throw {failure : ExecutionError} (other : ∀ reason, failure ≠ .lock reason) :
    (MonadExcept.throw failure : Task ExecutionError Result).IsLockless := by
  intro _ _ reason failed
  rw [perform_throw] at failed
  injection failed with same
  exact other reason same

theorem observe (look : View → Result) :
    (Task.observe look : Task ExecutionError Result).IsLockless := by
  intro _ _ reason failed
  rw [perform_observe] at failed
  cases failed

theorem bind {next : Result → Task ExecutionError Other} (first : task.IsLockless)
    (second : ∀ value, (next value).IsLockless) : (task >>= next).IsLockless := by
  intro holder world reason failed
  rw [perform_bind] at failed
  rcases performed : task.perform holder world with ⟨failure | value, between⟩
  · have other := first holder world reason
    rw [performed] at failed other
    injection failed with same
    exact other (congrArg Except.error same)
  · rw [performed] at failed
    exact second value holder between reason failed

theorem mapFailure {express : Failure → ExecutionError} (task : Task Failure Result)
    (other : ∀ failure reason, express failure ≠ .lock reason) :
    (task.mapFailure express).IsLockless := by
  intro holder world reason failed
  rw [perform_mapFailure] at failed
  rcases performed : task.perform holder world with ⟨failure | value, between⟩
  · rw [performed] at failed
    injection failed with same
    exact other failure reason same
  · rw [performed] at failed
    cases failed

theorem compensate (committing : task.IsLockless) (remedy : Task ExecutionError Unit) :
    (task.compensate remedy).IsLockless := by
  intro holder world reason failed
  rw [perform_compensate] at failed
  rcases performed : task.perform holder world with ⟨failure | value, between⟩
  · have other := committing holder world reason
    rw [performed] at failed other
    exact other failed
  · rw [performed] at failed
    cases failed

end Task.IsLockless

namespace Session

variable {session : Session} {holder taker : Holder} {world : World} {command : Command}

theorem isLockless_git (arguments : List String) (accepted : List Int) :
    (session.git arguments accepted).IsLockless := by
  intro holder world reason failed
  rw [perform_git] at failed
  generalize session.config.git.accept arguments accepted _ = accepted at failed
  cases accepted with
  | error failure => cases failed
  | ok completion => cases failed

theorem isLockless_head : session.head.IsLockless := by
  intro holder world reason failed
  rw [head, Task.perform_inspect] at failed
  generalize session.repository.head world.files = found at failed
  cases found with
  | error failure => cases failed
  | ok commit => cases failed

theorem isLockless_resolve (reference : String) : (session.resolve reference).IsLockless := by
  refine (Task.IsLockless.observe _).bind fun found => ?_
  cases found with
  | none => exact .throw (by simp)
  | some entry => exact .pure entry

theorem isLockless_rejectOptionLike (revision : String) :
    (liftM (rejectOptionLike revision) : Task ExecutionError Unit).IsLockless := by
  intro holder world reason failed
  rw [Task.perform_liftM, rejectOptionLike] at failed
  split at failed <;> cases failed

theorem isLockless_commit (verb : String) (entry : MemoryEntry) :
    (session.commit verb entry).IsLockless := by
  refine (isLockless_git _ [0]).bind fun _ => isLockless_head.bind fun found => ?_
  cases found with
  | none => exact .throw (by simp)
  | some identifier => exact .pure _

theorem isLockless_addAndCommit (verb : String) (entry : MemoryEntry) :
    (session.addAndCommit verb entry).IsLockless :=
  (isLockless_git _ [0]).bind fun _ => isLockless_commit verb entry

theorem isLockless_log (depth : Depth) (options : List String) (path : String) :
    (session.log depth options path).IsLockless := by
  refine isLockless_head.bind fun found => ?_
  cases found with
  | none => exact .pure _
  | some identifier => exact (isLockless_git _ [0]).bind fun _ => .pure _

/-- A command fails for the lock only if it could not take it. -/
theorem lock_of_execute {reason : LockError}
    (failed : ((session.execute command).perform holder world).1 = .error (.lock reason)) :
    (session.storage.lock.perform holder world).1 = .error reason := by
  -- behind the lock nothing fails for the lock, so this failure is that of taking it
  have behind : ∀ task : Task ExecutionError Outcome, task.IsLockless →
      ((session.exclusively task).perform holder world).1 = .error (.lock reason) →
      (session.storage.lock.perform holder world).1 = .error reason := by
    intro task lockless failed
    rcases entered : session.enter? holder world with _ | locked
    · rcases perform_exclusively_of_not_entered task entered with
        ⟨failure, -, performed⟩ | ⟨failure, after, locks, performed⟩
      · rw [performed] at failed
        cases failed
      · rw [performed] at failed
        cases failed
        rw [locks]
    · rw [perform_exclusively_of_entered entered] at failed
      exact absurd failed (lockless holder locked reason)
  have store : ∀ failure reason, ExecutionError.store failure ≠ .lock reason := by simp
  cases command with
  | create symbol slug content =>
      refine behind _ ?_ failed
      refine (Task.IsLockless.mapFailure _ store).bind fun entry => ?_
      exact ((isLockless_addAndCommit _ entry).compensate _).bind fun commit => .pure _
  | update reference content =>
      refine behind _ ?_ failed
      refine (isLockless_resolve reference).bind fun entry => ?_
      refine (Task.IsLockless.mapFailure _ store).bind fun previous => ?_
      refine (Task.IsLockless.mapFailure _ store).bind fun _ => ?_
      exact ((isLockless_addAndCommit _ entry).compensate _).bind fun commit => .pure _
  | delete reference =>
      refine behind _ ?_ failed
      refine (isLockless_resolve reference).bind fun entry => ?_
      refine (isLockless_git _ [0]).bind fun _ => ?_
      exact ((isLockless_commit _ entry).compensate _).bind fun commit => .pure _
  | search query depth =>
      refine absurd failed (Task.IsLockless.bind (isLockless_git _ _) (fun found => ?_) _ _ _)
      exact (isLockless_log depth _ scope).bind fun commits => .pure _
  | view reference =>
      refine absurd failed (Task.IsLockless.bind (.observe _) (fun found => ?_) _ _ _)
      cases found with
      | some entry => exact (Task.IsLockless.mapFailure _ store).bind fun text => .pure _
      | none =>
          refine (isLockless_rejectOptionLike reference).bind fun _ => ?_
          exact (isLockless_git _ [0]).bind fun shown => .pure _
  | history path depth =>
      refine absurd failed (Task.IsLockless.bind (.observe _) (fun entry => ?_) _ _ _)
      exact (isLockless_log depth [] _).bind fun commits => .pure _
  | diff older newer =>
      refine absurd failed
        (Task.IsLockless.bind (isLockless_rejectOptionLike older) (fun _ => ?_) _ _ _)
      refine (isLockless_rejectOptionLike newer).bind fun _ => ?_
      exact (isLockless_git _ [0]).bind fun printed => .pure _
  | list symbol => exact absurd failed (Task.IsLockless.observe _ _ _ _)

end Session

/-- A command that a process executes, and when. -/
structure Errand where
  session : Session
  holder : Holder
  time : Timestamp
  command : Command

namespace Errand

/-- The world as the errand finds it. -/
def worldAt (errand : Errand) (world : World) : World :=
  { world with now := errand.time }

/-- The answer to the command, and the world afterwards. -/
def perform (errand : Errand) (world : World) : Except ExecutionError Outcome × World :=
  (errand.session.execute errand.command).perform errand.holder (errand.worldAt world)

theorem git_perform (errand : Errand) (world : World) :
    (errand.perform world).2.git = world.git :=
  (errand.session.execute errand.command).git_perform errand.holder (errand.worldAt world)

variable {errand : Errand} {world : World} {taker : Holder}

theorem isHeld_before (honest : Git.LeavesFree world.git errand.session.storage.lockPlace)
    (held : (errand.perform world).2.files.IsHeld taker errand.session.storage.lockPlace) :
    world.files.IsHeld taker errand.session.storage.lockPlace := by
  rw [perform] at held
  have honestThen : Git.LeavesFree (errand.worldAt world).git errand.session.storage.lockPlace :=
    honest
  have before : (errand.worldAt world).files.IsHeld taker errand.session.storage.lockPlace :=
    Session.isHeld_before_execute errand.command honestThen held
  exact before

theorem isHeld_of_refused (refused : (errand.perform world).1 = .error (.lock .alreadyLocked)) :
    ∃ taker, world.files.IsHeld taker errand.session.storage.lockPlace := by
  rw [perform] at refused
  rcases Storage.isHeld_of_alreadyLocked (Session.lock_of_execute refused) with ⟨taker, held⟩
  exact ⟨taker, held⟩

end Errand

/-- The world after some errands, one after another. -/
def World.afterAll (world : World) (errands : List Errand) : World :=
  errands.foldl (fun reached errand => (errand.perform reached).2) world

theorem World.isHeld_before_all {place : Path.Location} {errands : List Errand} {world : World}
    {taker : Holder} (honest : Git.LeavesFree world.git place)
    (shared : ∀ errand ∈ errands, errand.session.storage.lockPlace = place)
    (held : (world.afterAll errands).files.IsHeld taker place) :
    world.files.IsHeld taker place := by
  induction errands generalizing world with
  | nil => exact held
  | cons errand errands ih =>
      have here : errand.session.storage.lockPlace = place := shared errand List.mem_cons_self
      have later : (errand.perform world).2.files.IsHeld taker place := by
        refine ih ?_ (fun other among => shared other (List.mem_cons_of_mem errand among)) held
        rw [errand.git_perform]
        exact honest
      subst here
      exact Errand.isHeld_before honest later

namespace Session

/-- A command whose guards find something fails, changes no file but the lock's and calls git for
nothing. Whoever has the lock after a run of commands had it before, and a command that is refused
the lock after a run is refused it because of somebody who had it before. -/
theorem guards_come_first_and_lock_is_given_back :
    (∀ (session : Session) (command : Command) (holder : Holder) (world : World),
      command.operation ∈ [.create, .update, .delete] → session.Obstructed world command →
      (∃ failure after, (session.execute command).perform holder world = (.error failure, after) ∧
        world.SameOutside after ∧ ∀ place, place ≠ session.storage.lockPlace →
          after.files.fileAt? place = world.files.fileAt? place) ∧
      (session.execute command).calls holder world = []) ∧
    ∀ (place : Path.Location) (world : World) (errands : List Errand),
      Git.LeavesFree world.git place →
      (∀ errand ∈ errands, errand.session.storage.lockPlace = place) →
      (∀ taker, (world.afterAll errands).files.IsHeld taker place →
        world.files.IsHeld taker place) ∧
      ∀ errand : Errand, errand.session.storage.lockPlace = place →
        (errand.perform (world.afterAll errands)).1 = .error (.lock .alreadyLocked) →
        ∃ taker, world.files.IsHeld taker place := by
  constructor
  · intro session command holder world mutates obstructed
    exact perform_of_obstructed holder mutates obstructed
  · intro place world errands honest shared
    have before : ∀ taker, (world.afterAll errands).files.IsHeld taker place →
        world.files.IsHeld taker place :=
      fun taker => World.isHeld_before_all honest shared
    refine ⟨before, ?_⟩
    intro errand here refused
    subst here
    rcases Errand.isHeld_of_refused refused with ⟨taker, held⟩
    exact ⟨taker, before taker held⟩

/-- After a creation that was taken back, a deletion that found nothing and a listing the lock is
free; a creation that comes while another process has it writes nothing. -/
theorem lock_is_given_back_after_failures :
    let creation : Command := .create .insight ⟨"x", by decide⟩ "a"
    let start := World.plain [] refusingCommits
    let reached := start.afterAll
      [⟨plain, 1, .epoch, creation⟩, ⟨plain, 2, .epoch, .delete "y"⟩,
        ⟨plain, 3, .epoch, .list none⟩]
    reached.exchanges.length = 3 ∧
    (∀ taker, ¬reached.files.IsHeld taker plain.storage.lockPlace) ∧
    (Errand.perform ⟨plain, 4, .epoch, creation⟩ reached).1 ≠ .error (.lock .alreadyLocked) ∧
    ∃ held, reached.files.hold? 7 plain.storage.lockPlace = some held ∧
      (∃ failure after, (plain.execute creation).perform 5 (reached.withFiles held) =
        (.error failure, after) ∧
        after.files.fileAt? ["r", "memories", "insight", "x.md"] =
          held.fileAt? ["r", "memories", "insight", "x.md"]) ∧
      (plain.execute creation).calls 5 (reached.withFiles held) = [] := by
  intro creation start reached
  rcases guards_come_first_and_lock_is_given_back with ⟨guards, releases⟩
  have nobody : ∀ taker, ¬start.files.IsHeld taker plain.storage.lockPlace := by
    rintro taker ⟨content, present⟩
    have absent : start.files.isFile plain.storage.lockPlace = false := by decide +kernel
    rw [FileTree.isFile_eq_isSome, FileTree.fileAt?, FileTree.item?_of_standing? present] at absent
    cases absent
  have honest : Git.LeavesFree start.git plain.storage.lockPlace :=
    fun _ _ _ _ held => held
  have shared : ∀ errand ∈ ([⟨plain, 1, .epoch, creation⟩, ⟨plain, 2, .epoch, .delete "y"⟩,
      ⟨plain, 3, .epoch, .list none⟩] : List Errand),
      errand.session.storage.lockPlace = plain.storage.lockPlace := by
    simp
  rcases releases plain.storage.lockPlace start _ honest shared with ⟨before, refusals⟩
  have free : ∀ taker, ¬reached.files.IsHeld taker plain.storage.lockPlace :=
    fun taker held => nobody taker (before taker held)
  have unrefused : (Errand.perform ⟨plain, 4, .epoch, creation⟩ reached).1 ≠
      .error (.lock .alreadyLocked) := by
    intro refused
    rcases refusals ⟨plain, 4, .epoch, creation⟩ rfl refused with ⟨taker, held⟩
    exact nobody taker held
  have evaluated : reached.exchanges.length = 3 ∧
      (reached.files.hold? 7 plain.storage.lockPlace).isSome := by decide +kernel
  rcases found : reached.files.hold? 7 plain.storage.lockPlace with _ | held
  · rw [found] at evaluated
    cases evaluated.2
  · have owned : held.IsHeld 7 plain.storage.lockPlace := FileTree.isHeld_of_hold? found
    rcases guards plain creation 5 (reached.withFiles held) List.mem_cons_self
      (.locked creation 7 owned) with ⟨⟨failure, after, failed, -, same⟩, silent⟩
    refine ⟨evaluated.1, free, unrefused, held, rfl, ⟨failure, after, failed, ?_⟩, silent⟩
    exact same _ (by decide +kernel)

end Session

end MemoryKeeper

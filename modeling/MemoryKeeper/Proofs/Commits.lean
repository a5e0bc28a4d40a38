import MemoryKeeper.Proofs.Deletions

/-!
# Answers and commits

A command that changes a memory should answer success exactly when git recorded
its commit. It goes by more than that: the commit is looked up once it was made,
and if there is no current commit then, the command takes its work back as if git
had refused it. The answer is a success exactly when the commit was recorded and
there is a current commit.

Behind such a commit nothing but the lock is touched, so the memory's file stays
as it was committed. Behind a commit that was recorded but could not be looked up
the memory's file is put back as it was before.
-/

namespace MemoryKeeper

open MemoryKeeper.Path (Location)

namespace Session

variable {session : Session} {holder : Holder} {world before between after : World}
  {entry : MemoryEntry} {verb : String}

/-- The process that commits a memory's file. -/
def commitment (session : Session) (verb : String) (entry : MemoryEntry) : Git.Invocation :=
  session.invocation ["commit", "-q", "-m", session.subject verb entry, "--", entry.relativePath]

/-- Whether a process commits no memory's file. -/
def isPreparatory (session : Session) (invocation : Git.Invocation) : Prop :=
  ∀ verb entry, invocation ≠ session.commitment verb entry

/-- Whether an exchange left a repository with a current commit. -/
def HasHead (session : Session) (exchange : Exchange) : Prop :=
  ∃ identifier, session.repository.head exchange.reply.files = .ok (some identifier)

/-- Whether an exchange is a commit that git recorded. -/
def IsRecorded (session : Session) (exchange : Exchange) : Prop :=
  (∃ verb entry, exchange.invocation = session.commitment verb entry) ∧
    exchange.reply.code = some 0

theorem isPreparatory_invocation {arguments : List String} (noCommit : verb ≠ "commit") :
    session.isPreparatory (session.invocation (verb :: arguments)) := by
  intro other entry same
  exact noCommit (List.cons.inj (invocation_injective same)).1

theorem entry_of_commitment {otherVerb : String} {other : MemoryEntry}
    (same : session.commitment verb entry = session.commitment otherVerb other) :
    entry = other := by
  have sameArguments := invocation_injective same
  simp only [List.cons.injEq, true_and, and_true] at sameArguments
  exact MemoryEntry.relativePath_injective sameArguments.2

/-- What a command comes to between two worlds, success or not, as far as the commit of the memory
that it is about shows. -/
inductive Answered (session : Session) (subject : Option MemoryEntry) (before : World) :
    Bool → World → Prop where
  | unrecorded (made : List Exchange) {after : World}
      (exchanges : after.exchanges = made ++ before.exchanges)
      (noneRecorded : ∀ exchange ∈ made, ¬session.IsRecorded exchange) :
      Answered session subject before false after
  | unseen (early late : List Exchange) {exchange : Exchange} {after : World}
      (exchanges : after.exchanges = late ++ exchange :: early ++ before.exchanges)
      (preparatory : ∀ other ∈ late ++ early, session.isPreparatory other.invocation)
      (commits : ∃ verb, ∃ entry ∈ subject, exchange.invocation = session.commitment verb entry)
      (headless : ¬session.HasHead exchange) :
      Answered session subject before false after
  | seen (early : List Exchange) {exchange : Exchange} {after : World}
      (exchanges : after.exchanges = exchange :: early ++ before.exchanges)
      (preparatory : ∀ other ∈ early, session.isPreparatory other.invocation)
      (commits : ∃ verb, ∃ entry ∈ subject, exchange.invocation = session.commitment verb entry)
      (asked : exchange.reply =
        before.git (early ++ before.exchanges) exchange.invocation exchange.found)
      (succeeds : exchange.reply.code = some 0)
      (headed : session.HasHead exchange)
      (kept : ∀ place, place ≠ session.storage.lockPlace →
        after.files.fileAt? place = exchange.reply.files.fileAt? place) :
      Answered session subject before true after

theorem not_isRecorded_of_isPreparatory {exchange : Exchange}
    (preparatory : session.isPreparatory exchange.invocation) :
    ¬session.IsRecorded exchange := by
  rintro ⟨⟨verb, entry, commits⟩, -⟩
  exact preparatory verb entry commits

end Session

/-- A world and a later one between which git made no commit. -/
abbrev World.Prepared (session : Session) (before after : World) : Prop :=
  before.Spared session.isPreparatory (fun _ => False) after

/-- A task that makes no commit. -/
abbrev Task.Prepares {Failure Result : Type} (session : Session)
    (task : Task Failure Result) : Prop :=
  task.Spares session.isPreparatory fun _ => False

theorem Git.spares_nowhere (git : Git.Behavior) (calls : Git.Invocation → Prop) :
    Git.Spares git calls fun _ => False := by
  constructor
  · intro _ _ _ _ _ nowhere
    cases nowhere
  · intro _ _ _ _ _ nowhere
    cases nowhere

theorem World.exchanges_release (holder : Holder) (place : Location) (world : World) :
    (world.release holder place).exchanges = world.exchanges :=
  rfl

namespace Session

variable {session : Session} {holder : Holder} {world before between after : World}
  {subject : Option MemoryEntry} {entry : MemoryEntry} {verb : String}

theorem answered_commit (holder : Holder) (world : World) :
    session.Answered (some entry) world
      ((session.commit verb entry).perform holder world).1.toOption.isSome
      ((session.commit verb entry).perform holder world).2 := by
  rw [commit, runGit, Task.perform_bind, perform_git]
  rcases startable : world.startFailure? (session.commitment verb entry) with _ | failure
  · have started := World.start_of_none startable
    have exchanges : (world.exchanged (session.commitment verb entry)).exchanges =
        [⟨session.commitment verb entry, world.files, _⟩] ++ world.exchanges := rfl
    rw [commitment] at started
    rw [started]
    by_cases succeeds : (world.git world.exchanges (session.commitment verb entry)
      world.files).code = some 0
    · rw [Git.Settings.accept_of_succeeded succeeds]
      simp only [Except.mapError_ok]
      rw [Task.perform_bind, head, Task.perform_inspect]
      rcases found : session.repository.head
        (world.exchanged (session.commitment verb entry)).files with failure | _ | identifier
      · rw [commitment] at found
        rw [found]
        refine .unseen [] [] exchanges (by simp) ⟨verb, entry, rfl, rfl⟩ ?_
        rintro ⟨identifier, headed⟩
        cases found.symm.trans headed
      · rw [commitment] at found
        simp only [found, Except.mapError_ok, Task.perform_throw]
        refine .unseen [] [] exchanges (by simp) ⟨verb, entry, rfl, rfl⟩ ?_
        rintro ⟨identifier, headed⟩
        cases found.symm.trans headed
      · have headed := found
        rw [commitment] at found
        simp only [found, Except.mapError_ok, Task.perform_pure]
        exact .seen [] exchanges (by simp) ⟨verb, entry, rfl, rfl⟩ rfl succeeds
          ⟨identifier, headed⟩ fun _ _ => rfl
    · rw [Git.Settings.accept_of_failed succeeds]
      refine .unrecorded [_] exchanges ?_
      intro exchange made recorded
      rw [List.mem_singleton.mp made] at recorded
      exact succeeds recorded.2
  · have started := World.start_of_some startable
    rw [commitment] at started
    rw [started]
    refine .unrecorded [] rfl ?_
    intro exchange made
    cases made

/-- What comes before a commit does not count. -/
theorem Answered.after_prepared {succeeded : Bool}
    (prepared : World.Prepared session before between)
    (answered : session.Answered subject between succeeded after) :
    session.Answered subject before succeeded after := by
  rcases prepared.exchanges with ⟨first, made, preparatory⟩
  cases answered with
  | unrecorded later exchanges noneRecorded =>
      refine .unrecorded (later ++ first) (by rw [exchanges, made, List.append_assoc]) ?_
      intro exchange isMade
      rcases List.mem_append.mp isMade with isLater | isFirst
      · exact noneRecorded exchange isLater
      · exact not_isRecorded_of_isPreparatory (preparatory exchange isFirst)
  | unseen early late exchanges others commits headless =>
      refine .unseen (early ++ first) late (by rw [exchanges, made]; simp) ?_ commits headless
      rw [← List.append_assoc]
      exact List.forall_mem_append.mpr ⟨others, preparatory⟩
  | seen early exchanges others commits asked succeeds headed kept =>
      refine .seen (early ++ first) (by rw [exchanges, made]; simp) ?_ commits ?_ succeeds headed
        kept
      · exact List.forall_mem_append.mpr ⟨others, preparatory⟩
      · rw [asked, prepared.git, made, List.append_assoc]

/-- A task that failed may be followed by anything but a commit. -/
theorem Answered.before_prepared (answered : session.Answered subject before false between)
    (prepared : World.Prepared session between after) :
    session.Answered subject before false after := by
  rcases prepared.exchanges with ⟨last, made, preparatory⟩
  cases answered with
  | unrecorded earlier exchanges noneRecorded =>
      refine .unrecorded (last ++ earlier) (by rw [made, exchanges, List.append_assoc]) ?_
      intro exchange isMade
      rcases List.mem_append.mp isMade with isLast | isEarlier
      · exact not_isRecorded_of_isPreparatory (preparatory exchange isLast)
      · exact noneRecorded exchange isEarlier
  | unseen early late exchanges others commits headless =>
      refine .unseen early (last ++ late) (by rw [made, exchanges]; simp) ?_ commits headless
      rw [List.append_assoc]
      exact List.forall_mem_append.mpr ⟨preparatory, others⟩

theorem Answered.release {succeeded : Bool} (holder : Holder)
    (answered : session.Answered subject before succeeded after) :
    session.Answered subject before succeeded (after.release holder session.storage.lockPlace) := by
  have same := World.exchanges_release holder session.storage.lockPlace after
  cases answered with
  | unrecorded made exchanges noneRecorded =>
      exact .unrecorded made (same.trans exchanges) noneRecorded
  | unseen early late exchanges others commits headless =>
      exact .unseen early late (same.trans exchanges) others commits headless
  | seen early exchanges others commits asked succeeds headed kept =>
      refine .seen early (same.trans exchanges) others commits asked succeeds headed ?_
      intro place elsewhere
      exact (World.fileAt?_release holder after elsewhere).trans (kept place elsewhere)

/-- A task that failed without a commit. -/
theorem answered_of_failed (prepared : World.Prepared session before after) :
    session.Answered subject before false after := by
  rcases prepared.exchanges with ⟨made, exchanges, preparatory⟩
  refine .unrecorded made exchanges ?_
  intro exchange isMade
  exact not_isRecorded_of_isPreparatory (preparatory exchange isMade)

section Parts

variable {First Result : Type} {task : Task ExecutionError First}
  {next : First → Task ExecutionError Result} {committing : Task ExecutionError String}
  {remedy : Task ExecutionError Unit} {outcome : String → Outcome}

/-- Whether a task's answer agrees with the commit of a memory. -/
def Answers (session : Session) (subject : Option MemoryEntry)
    (task : Task ExecutionError Result) (holder : Holder) (world : World) : Prop :=
  session.Answered subject world (task.perform holder world).1.toOption.isSome
    (task.perform holder world).2

/-- A task that makes no commit comes before the rest. -/
theorem answers_bind
    (prepared : World.Prepared session world (task.perform holder world).2)
    (rest : ∀ value between, task.perform holder world = (.ok value, between) →
      session.Answers subject (next value) holder between) :
    session.Answers subject (task >>= next) holder world := by
  rw [Answers, Task.perform_bind]
  rcases performed : task.perform holder world with ⟨failure | value, between⟩
  · rw [performed] at prepared
    exact answered_of_failed prepared
  · rw [performed] at prepared
    exact (rest value between performed).after_prepared prepared

/-- A commit whose failure is made good, and the outcome that is made of it. -/
theorem answers_compensate (answers : session.Answers subject committing holder world)
    (prepares : remedy.Prepares session) :
    session.Answers subject (do
      let commit ← committing.compensate remedy
      return outcome commit) holder world := by
  rw [Answers] at answers ⊢
  rw [Task.perform_bind, Task.perform_compensate]
  generalize committing.perform holder world = committed at answers
  rcases committed with ⟨failure | commit, between⟩
  · exact answers.before_prepared (prepares holder between (Git.spares_nowhere _ _))
  · simp only [Task.perform_pure]
    exact answers

end Parts

theorem prepares_runGit {arguments : List String} (noCommit : verb ≠ "commit") :
    (session.runGit (verb :: arguments)).Prepares session :=
  spares_git (isPreparatory_invocation noCommit) [0]

theorem answers_addAndCommit :
    session.Answers (some entry) (session.addAndCommit verb entry) holder world := by
  rw [addAndCommit]
  apply answers_bind
  · exact prepares_runGit (by decide) holder world (Git.spares_nowhere _ _)
  · intro _ between _
    exact answered_commit holder between

theorem prepared_of_sameOutside (outside : before.SameOutside after) :
    World.Prepared session before after := by
  rw [outside]
  refine ⟨rfl, rfl, ⟨[], rfl, by simp⟩, ?_, ?_⟩
  · intro _ nowhere
    cases nowhere
  · intro _ nowhere
    cases nowhere

theorem prepares_write {text : String} : (session.storage.write entry text).Prepares session := by
  intro holder world _
  have written : session.storage.Written entry text world
      ((session.storage.write entry text).perform holder world).1
      ((session.storage.write entry text).perform holder world).2 := Storage.written_write
  generalize (session.storage.write entry text).perform holder world = performed at written
  rcases performed with ⟨answer, after⟩
  apply prepared_of_sameOutside
  cases written with
  | refused _ _ outside => exact outside
  | stranded _ _ _ outside => exact outside
  | done _ _ _ _ outside => exact outside

end Session

namespace Task

variable {Failure OtherFailure Result : Type} {session : Session} {task : Task Failure Result}

theorem prepares_inspect (look : View → Except Failure Result) :
    (inspect look).Prepares session := by
  apply spares_of_unchanged
  intro _ _
  rw [perform_inspect]

theorem Prepares.mapFailure (prepares : task.Prepares session) (express : Failure → OtherFailure) :
    (task.mapFailure express).Prepares session := by
  intro holder world sparing
  rw [perform_mapFailure]
  exact prepares holder world sparing

theorem Prepares.attempt (prepares : task.Prepares session) :
    (task.attempt : Task OtherFailure Unit).Prepares session := by
  intro holder world sparing
  rw [perform_attempt]
  exact prepares holder world sparing

end Task

namespace Session

variable {session : Session} {holder : Holder} {world locked : World}
  {subject : Option MemoryEntry} {entry : MemoryEntry}

theorem prepares_create {content : String} :
    (session.storage.create entry content).Prepares session := by
  rw [Storage.create]
  apply (Task.prepares_inspect _).bind
  intro document
  apply prepares_write.bind
  intro _
  exact Task.spares_pure entry

theorem prepares_update {content : String} :
    (session.storage.update entry content).Prepares session := by
  rw [Storage.update]
  apply (Task.prepares_inspect _).bind
  intro document
  apply prepares_write.bind
  intro _
  exact Task.spares_pure _

theorem prepares_discard : (session.storage.discard entry).Prepares session := by
  intro holder world _
  rw [Storage.discard]
  rcases made : (Edit.removeFile (session.storage.place entry)).apply world.files with
    failure | files
  · rw [Storage.perform_change_of_error world _ made]
    exact World.Spared.refl world
  · rw [Storage.perform_change_of_ok world _ made]
    exact prepared_of_sameOutside rfl

/-- The memory that a command changes. -/
def subject? (session : Session) (files : FileTree) : Command → Option MemoryEntry
  | .create symbol slug _ => some ⟨symbol, slug⟩
  | .update reference _ => session.storage.resolve? files reference
  | .delete reference => session.storage.resolve? files reference
  | _ => none

theorem answers_exclusively {task : Task ExecutionError Outcome}
    (inside : ∀ locked, session.enter? holder world = some locked →
      session.Answers subject task holder locked) :
    session.Answers subject (session.exclusively task) holder world := by
  rcases entered : session.enter? holder world with _ | locked
  · rcases perform_exclusively_of_barred entered with ⟨failure, after, performed, outside, -⟩
    rw [Answers, performed]
    exact answered_of_failed (prepared_of_sameOutside outside)
  · have prepared : World.Prepared session world locked :=
      prepared_of_sameOutside (enter?_spec entered).1
    rw [Answers, perform_exclusively_of_entered entered]
    exact ((inside locked entered).after_prepared prepared).release holder

theorem entry_of_perform_create {content : String} {value : MemoryEntry} {after : World}
    (performed : ((session.storage.create entry content).mapFailure ExecutionError.store).perform
      holder world = (.ok value, after)) : value = entry := by
  rcases found : session.storage.find? world.files entry.slug with _ | existing
  · rw [perform_storage_create found] at performed
    generalize (session.storage.write entry _).perform holder world = written at performed
    rcases written with ⟨failure | _, between⟩
    · cases performed
    · cases performed
      rfl
  · rw [Task.perform_mapFailure, Storage.create, Task.perform_bind,
      Task.perform_inspect] at performed
    simp only [found] at performed
    cases performed

theorem resolves_of_perform_resolve {reference : String} {value : MemoryEntry} {after : World}
    (performed : (session.resolve reference).perform holder world = (.ok value, after)) :
    session.storage.resolve? world.files reference = some value ∧ after = world := by
  rcases resolved : session.storage.resolve? world.files reference with _ | found
  · rw [perform_resolve_of_none holder resolved] at performed
    cases performed
  · rw [perform_resolve_of_some holder resolved] at performed
    cases performed
    exact ⟨rfl, rfl⟩

theorem prepares_resolve {reference : String} : (session.resolve reference).Prepares session := by
  apply Task.spares_of_unchanged
  intro holder world
  rcases resolved : session.storage.resolve? world.files reference with _ | found
  · rw [perform_resolve_of_none holder resolved]
  · rw [perform_resolve_of_some holder resolved]

/-- A command that changes a memory answers as its commit went. -/
theorem answers_execute {command : Command}
    (mutates : command.operation ∈ [.create, .update, .delete]) (holder : Holder) (world : World) :
    session.Answers (session.subject? world.files command) (session.execute command) holder
      world := by
  cases command with
  | create symbol slug content =>
      apply answers_exclusively
      intro locked entered
      apply answers_bind
      · exact (prepares_create.mapFailure _) holder locked (Git.spares_nowhere _ _)
      · intro entry between performed
        rw [entry_of_perform_create performed]
        apply answers_compensate answers_addAndCommit
        apply (prepares_runGit (by decide)).attempt.bind
        intro _
        exact prepares_discard.attempt
  | update reference content =>
      apply answers_exclusively
      intro locked entered
      apply answers_bind
      · exact prepares_resolve holder locked (Git.spares_nowhere _ _)
      · intro entry between performed
        rw [subject?, ← resolve?_of_entered entered, (resolves_of_perform_resolve performed).1]
        apply answers_bind
        · exact ((Task.prepares_inspect _).mapFailure _) holder between (Git.spares_nowhere _ _)
        · intro previous found _
          apply answers_bind
          · exact (prepares_update.mapFailure _) holder found (Git.spares_nowhere _ _)
          · intro document written _
            apply answers_compensate answers_addAndCommit
            apply prepares_write.attempt.bind
            intro _
            exact (prepares_runGit (by decide)).attempt
  | delete reference =>
      apply answers_exclusively
      intro locked entered
      apply answers_bind
      · exact prepares_resolve holder locked (Git.spares_nowhere _ _)
      · intro entry between performed
        rw [subject?, ← resolve?_of_entered entered, (resolves_of_perform_resolve performed).1]
        apply answers_bind
        · exact prepares_runGit (by decide) holder between (Git.spares_nowhere _ _)
        · intro _ removed _
          apply answers_compensate (answered_commit holder removed)
          exact (prepares_runGit (by decide)).attempt
  | _ => simp [Command.operation] at mutates

theorem eq_of_isRecorded {early late : List Exchange} {exchange other : Exchange}
    (preparatory : ∀ other ∈ late ++ early, session.isPreparatory other.invocation)
    (isMade : other ∈ late ++ exchange :: early) (recorded : session.IsRecorded other) :
    other = exchange := by
  by_contra different
  refine not_isRecorded_of_isPreparatory (preparatory other ?_) recorded
  simpa [different] using isMade

theorem subject?_of_intended {command : Command} {text : String}
    (entered : session.enter? holder world = some locked)
    (intended : session.intended? locked.toView command = some (entry, text)) :
    session.subject? world.files command = some entry := by
  cases command with
  | create symbol slug content =>
      rw [(intended?_create intended).2.1]
      rfl
  | update reference content =>
      rcases intended?_update intended with ⟨previous, document, resolved, -⟩
      rw [subject?, ← resolve?_of_entered entered, resolved]
  | _ => simp [intended?] at intended

/-- A creation or an update that failed has left or put back the memory's file, unless its draft has
a name that no new file can have. -/
theorem fileAt?_of_failed {command : Command} {failure : ExecutionError} {after : World}
    (writes : command.operation = .create ∨ command.operation = .update)
    (sparing : Git.Spares world.git session.isPassive session.storage.isMemoryPlace)
    (failed : (session.execute command).perform holder world = (.error failure, after))
    (subject : session.subject? world.files command = some entry)
    (fitting : FileTree.fits (session.storage.draftPlace entry)) :
    after.files.fileAt? (session.storage.place entry) =
      world.files.fileAt? (session.storage.place entry) := by
  have shelters := session.storage.shelters_isMemoryPlace
  have inside := shelters.places entry
  rcases entered : session.enter? holder world with _ | locked
  · rcases perform_of_barred writes entered with ⟨refusal, later, performed, -, same⟩
    rw [failed] at performed
    cases performed
    exact same _ (shelters.ne_lockPlace inside)
  · rw [← (enter?_spec entered).2 _ (shelters.ne_lockPlace inside)]
    rcases intended : session.intended? locked.toView command with _ | ⟨other, text⟩
    · rcases fails_of_unintended writes shelters entered intended with
        ⟨refusal, later, performed, same⟩
      rw [failed] at performed
      cases performed
      exact same _ inside
    · have apart := session.storage.place_ne_draftPlace entry other
      have drafted := drafted_of_intended sparing shelters entered intended
      rw [failed] at drafted
      cases drafted with
      | refused closed files => exact files _ inside
      | stranded opens blocked files => rw [files _ inside, Function.update_of_ne apart]
      | undone opens free files => rw [files _ inside, Function.update_of_ne apart]
      | lost opens free present tooLong gone =>
          rw [subject?_of_intended entered intended] at subject
          cases subject
          exact absurd fitting tooLong

/-- A command that changes a memory answers success exactly when its commit was recorded and there is
a current commit afterwards. Then the memory's file stays as it was committed; if there is none, the
file is put back. -/
theorem succeeds_iff_recorded_and_current (holder : Holder) (world : World) (command : Command)
    (mutates : command.operation ∈ [.create, .update, .delete]) :
    let performed := (session.execute command).perform holder world
    ∃ made, performed.2.exchanges = made ++ world.exchanges ∧
      ((∃ outcome, performed.1 = .ok outcome) ↔
        ∃ exchange ∈ made, session.IsRecorded exchange ∧ session.HasHead exchange) ∧
      (command.operation ≠ .delete →
        Git.Spares world.git session.isPassive session.storage.isMemoryPlace →
        ∀ exchange ∈ made, session.IsRecorded exchange →
          ∃ entry, (∃ verb, exchange.invocation = session.commitment verb entry) ∧
            (session.HasHead exchange → ∃ text,
              exchange.found.fileAt? (session.storage.place entry) = some text ∧
              performed.2.files.fileAt? (session.storage.place entry) = some text) ∧
            (¬session.HasHead exchange → FileTree.fits (session.storage.draftPlace entry) →
              performed.2.files.fileAt? (session.storage.place entry) =
                world.files.fileAt? (session.storage.place entry))) := by
  intro performed
  have answers : session.Answers _ (session.execute command) holder world :=
    answers_execute mutates holder world
  have writes : command.operation ≠ .delete →
      command.operation = .create ∨ command.operation = .update := by
    intro noDelete
    simpa [noDelete] using mutates
  rw [Answers] at answers
  simp only [performed]
  rcases executed : (session.execute command).perform holder world with ⟨answer, after⟩
  rw [executed] at answers
  -- The cases of the answer say which exchanges can be recorded commits at all.
  generalize success : answer.toOption.isSome = succeeded at answers
  cases answers with
  | unrecorded made exchanges noneRecorded =>
      refine ⟨made, exchanges, ?_, ?_⟩
      · constructor
        · rintro ⟨outcome, rfl⟩
          cases success
        · rintro ⟨exchange, isMade, recorded, -⟩
          exact absurd recorded (noneRecorded exchange isMade)
      · intro _ _ exchange isMade recorded
        exact absurd recorded (noneRecorded exchange isMade)
  | unseen early late exchanges preparatory commits headless =>
      refine ⟨late ++ _ :: early, exchanges, ?_, ?_⟩
      · constructor
        · rintro ⟨outcome, rfl⟩
          cases success
        · rintro ⟨other, isMade, recorded, headed⟩
          rw [eq_of_isRecorded preparatory isMade recorded] at headed
          exact absurd headed headless
      · intro noDelete sparing other isMade recorded
        rw [eq_of_isRecorded preparatory isMade recorded]
        rcases commits with ⟨verb, entry, subject, commits⟩
        refine ⟨entry, ⟨verb, commits⟩, fun headed => absurd headed headless, ?_⟩
        intro _ fitting
        rcases answer with failure | outcome
        · exact fileAt?_of_failed (writes noDelete) sparing executed subject fitting
        · cases success
  | seen early exchanges preparatory commits asked succeeds headed kept =>
      rename_i exchange
      rcases commits with ⟨verb, entry, subject, commits⟩
      refine ⟨exchange :: early, exchanges, ?_, ?_⟩
      · constructor
        · intro _
          exact ⟨exchange, List.mem_cons_self, ⟨⟨verb, entry, commits⟩, succeeds⟩, headed⟩
        · intro _
          rcases answer with failure | outcome
          · cases success
          · exact ⟨outcome, rfl⟩
      · intro noDelete sparing other isMade recorded
        have isCommit : other = exchange := by
          rw [← List.nil_append early] at preparatory
          exact eq_of_isRecorded preparatory isMade recorded
        rw [isCommit]
        refine ⟨entry, ⟨verb, commits⟩, ?_, fun headless => absurd headed headless⟩
        intro _
        rcases answer with failure | outcome
        · cases success
        have shelters := session.storage.shelters_isMemoryPlace
        rcases committed_of_ok (writes noDelete) sparing shelters executed with
          ⟨locked, intended, text, entered, isIntended, files⟩
        rw [subject?_of_intended entered isIntended] at subject
        cases subject
        have inside := shelters.places entry
        have present := (files _ inside).trans (Function.update_self _ _ _)
        refine ⟨Text.encode text, ?_, present⟩
        rw [kept _ (shelters.ne_lockPlace inside), asked, commits] at present
        rw [← present]
        exact (sparing.files _ _ _ _ (isPassive_invocation (by decide) (by decide)) inside).symm

/-- Git that has no current commit any more once it recorded one. -/
def losingHead : Git.Behavior :=
  fun _ invocation found =>
    match invocation.arguments.contains "commit", found.removeFile ["r", ".git", "HEAD"] with
    | true, .ok headless => ⟨some 0, .empty, .empty, headless⟩
    | _, _ => ⟨some 0, .empty, .empty, found⟩

theorem spares_losingHead (calls : Git.Invocation → Prop) :
    Git.Spares losingHead calls plain.storage.isMemoryPlace := by
  have items : ∀ exchanges invocation (found : FileTree) place, plain.storage.isMemoryPlace place →
      (losingHead exchanges invocation found).files.item? place = found.item? place := by
    intro exchanges invocation found place inside
    have apart : place ≠ ["r", ".git", "HEAD"] := by
      rcases inside with ⟨entry, rfl | rfl⟩
      · rw [Storage.place_eq]
        exact fun same => absurd (List.cons.inj (List.cons.inj same).2).1 (by decide)
      · rw [Storage.draftPlace_eq]
        exact fun same => absurd (List.cons.inj (List.cons.inj same).2).1 (by decide)
    unfold losingHead
    split
    · next removed =>
        rw [(FileTree.items_of_removeFile removed).2.2, Function.update_of_ne apart]
    · rfl
  constructor
  · intro exchanges invocation found place _ inside
    rw [FileTree.fileAt?, FileTree.fileAt?, items exchanges invocation found place inside]
  · intro exchanges invocation found place _ inside present
    rwa [items exchanges invocation found place inside] at present

/-- A creation whose commit was recorded fails and takes the memory away if there is no current
commit. -/
theorem failure_of_lost_head :
    let entry : MemoryEntry := ⟨.insight, ⟨"x", by decide⟩⟩
    let command : Command := .create entry.symbol entry.slug "c"
    let performed := (plain.execute command).perform 0 (World.plain [] losingHead)
    ∃ failure exchange, performed.1 = .error failure ∧ exchange ∈ performed.2.exchanges ∧
      plain.IsRecorded exchange ∧
      exchange.found.fileAt? (plain.storage.place entry) ≠ none ∧
      performed.2.files.fileAt? (plain.storage.place entry) = none := by
  intro entry command
  have evaluated : ∃ performed,
      (plain.execute command).perform 0 (World.plain [] losingHead) = performed ∧
      performed.1.toOption = none ∧ performed.2.exchanges.any fun exchange =>
        exchange.invocation = plain.commitment "create" entry ∧ exchange.reply.code = some 0 ∧
          (exchange.found.fileAt? (plain.storage.place entry)).isSome := by
    refine ⟨_, rfl, ?_⟩
    decide +kernel
  rcases evaluated with ⟨performed, ran, fails, commits⟩
  rcases Except.exists_error_of_toOption fails with ⟨failure, failed⟩
  rw [List.any_eq_true] at commits
  rcases commits with ⟨exchange, isMade, commits⟩
  simp only [decide_eq_true_eq] at commits
  rcases @succeeds_iff_recorded_and_current plain 0 (World.plain [] losingHead) command
    (by decide) with
    ⟨made, exchanges, succeeds, files⟩
  simp only [ran] at exchanges succeeds files ⊢
  have recorded : plain.IsRecorded exchange := ⟨⟨"create", entry, commits.1⟩, commits.2.1⟩
  have among : exchange ∈ made := by
    rw [exchanges] at isMade
    simpa [World.plain] using isMade
  have headless : ¬plain.HasHead exchange := by
    intro headed
    rcases succeeds.mpr ⟨exchange, among, recorded, headed⟩ with ⟨outcome, succeeded⟩
    cases succeeded.symm.trans failed
  rcases files (by decide) (spares_losingHead _) exchange among recorded with
    ⟨other, ⟨verb, commitsOther⟩, -, putBack⟩
  have same : entry = other := entry_of_commitment (commits.1.symm.trans commitsOther)
  subst same
  have present := Option.isSome_iff_ne_none.mp commits.2.2
  refine ⟨failure, exchange, failed, isMade, recorded, present, ?_⟩
  rw [putBack headless (by decide)]
  decide +kernel

end Session

end MemoryKeeper

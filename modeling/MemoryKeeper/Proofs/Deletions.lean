import MemoryKeeper.Proofs.Contents

/-!
# Deleting, step by step

Deletions are left to git, which removes the memory's file and puts it back if
the removal cannot be committed. What a session must be able to rely on is that
git does just this, changes no other file of a memory, and stays in the
directory that it runs in; how git answers is its own affair.
-/

namespace MemoryKeeper

open MemoryKeeper.Path (Location)

/-- Whether processes can run in a directory of a tree. -/
def FileTree.Hosts (directory : String) (tree : FileTree) : Prop :=
  ∃ place, tree.locate "/" directory = .ok place ∧ tree.isDirectory place

namespace FileTree

theorem item?_eq_directory_iff {tree : FileTree} {place : Location} :
    tree.item? place = some .directory ↔ ∃ entries, tree.find place = .ok (.directory entries) := by
  rw [item?, standing?]
  rcases tree.find place with failure | (⟨content, holder⟩ | entries) <;>
    simp [Except.toOption, item]

theorem follow_of_locate {tree : FileTree} {directory path : String} {place : Location}
    (located : tree.locate directory path = .ok place) :
    tree.follow [] (Path.components (Path.join directory path)) = .ok place := by
  simp only [locate, bind, Except.bind] at located
  split at located
  · cases located
  · next other followed =>
      rw [followed]
      split at located
      · cases located
      · split at located
        · split at located
          · cases located
          · split at located
            · cases located
            · exact located
        · split at located
          · cases located
          · exact located

section Kept

variable {tree changed : FileTree}
  (kept : ∀ place, tree.item? place = some .directory → changed.item? place = some .directory)

include kept

theorem follow_of_kept {upwards : Location} {components : List Path.Component}
    {place : Location} (followed : tree.follow upwards components = .ok place) :
    changed.follow upwards components = .ok place := by
  induction components generalizing upwards with
  | nil => exact followed
  | cons component components ih =>
      simp only [follow] at followed ⊢
      rcases found : tree.find upwards.reverse with failure | (⟨content, holder⟩ | entries)
      · simp only [found, reduceCtorEq] at followed
      · simp only [found, reduceCtorEq] at followed
      · rcases item?_eq_directory_iff.mp (kept _ (item?_eq_directory_iff.mpr ⟨entries, found⟩)) with
          ⟨others, foundToo⟩
        simp only [found] at followed
        simp only [foundToo]
        cases component with
        | root => exact ih followed
        | here => exact ih followed
        | above => exact ih followed
        | name text => exact ih followed

/-- Processes can run in a directory as long as no directory is taken away. -/
theorem hosts_of_kept {directory : String} (hosts : tree.Hosts directory) :
    changed.Hosts directory := by
  rcases hosts with ⟨place, located, standing⟩
  have standingToo := kept place (isDirectory_iff.mp standing)
  refine ⟨place, ?_, isDirectory_iff.mpr standingToo⟩
  rcases item?_eq_directory_iff.mp standingToo with ⟨others, foundToo⟩
  rcases item?_eq_directory_iff.mp (isDirectory_iff.mp standing) with ⟨entries, found⟩
  have followed := follow_of_locate located
  simp only [locate, bind, Except.bind, followed, found] at located
  simp only [locate, bind, Except.bind, follow_of_kept kept followed, foundToo]
  exact located

end Kept

end FileTree

namespace Git.Settings

variable {settings : Settings} {arguments : List String} {completion : Completion}

theorem accept_of_succeeded (succeeded : completion.code = some 0) :
    settings.accept arguments [0] (.ok completion) = .ok completion := by
  simp [accept, succeeded]

theorem accept_of_failed (failed : completion.code ≠ some 0) :
    settings.accept arguments [0] (.ok completion) =
      .error (.commandFailed (settings.commandText arguments)
        (Text.trimmed completion.complaint) completion.code) := by
  have refused : completion.code.any [0].contains = false := by
    rcases code : completion.code with _ | status
    · rfl
    · simpa [code] using failed
  simp only [accept, refused, Bool.false_eq_true, if_false]

end Git.Settings

namespace World

variable {world later : World} {invocation : Git.Invocation} {directory program : String}

theorem directoryFailure?_eq_none_iff :
    world.directoryFailure? directory = none ↔ world.files.Hosts directory := by
  simp only [directoryFailure?, FileTree.Hosts]
  rcases world.files.locate "/" directory with failure | place
  · simp
  · simp

theorem startFailure?_eq_none_iff :
    world.startFailure? invocation = none ↔
      invocation.holdsNull = false ∧ world.files.Hosts invocation.directory ∧
        world.programFailure? invocation.directory invocation.program = none ∧
        invocation.isTooLong = false := by
  rw [← directoryFailure?_eq_none_iff, startFailure?]
  cases invocation.holdsNull <;> cases world.directoryFailure? invocation.directory <;>
    cases world.programFailure? invocation.directory invocation.program <;>
    cases invocation.isTooLong <;> simp

/-- A program that could be run can be run as long as it is not taken away. -/
theorem programFailure?_of_programs (programs : later.programs = world.programs)
    (runs : world.programFailure? directory program = none) :
    later.programFailure? directory program = none := by
  simp only [programFailure?] at runs ⊢
  rw [programs]
  split at runs
  · next atPath =>
      rw [if_pos atPath]
      split at runs
      · cases runs
      · next short =>
          rw [if_neg short]
          split at runs
          · next listed => rw [if_pos listed]
          · split at runs <;> cases runs
  · next named =>
      rw [if_neg named]
      exact runs

end World

namespace Session

variable {session : Session} {holder : Holder} {world locked later : World} {entry : MemoryEntry}

/-- Git that a session can leave its memories to. -/
structure ReliesOn (session : Session) (git : Git.Behavior) : Prop where
  passive : Git.Spares git session.isPassive session.storage.isMemoryPlace
  /-- A removal that succeeds removes the memory's file. -/
  removed : ∀ exchanges entry found,
    (git exchanges (session.removal entry) found).code = some 0 →
    (git exchanges (session.removal entry) found).files.Shows session.storage.isMemoryPlace
      (Function.update found.fileAt? (session.storage.place entry) none)
  refused : ∀ exchanges entry found,
    (git exchanges (session.removal entry) found).code ≠ some 0 →
    (git exchanges (session.removal entry) found).files.Shows session.storage.isMemoryPlace
      found.fileAt?
  /-- What git removed is put back, if no other memory was changed since. -/
  recovered : ∀ between removal before entry found,
    removal.invocation = session.removal entry →
    removal.reply = git before (session.removal entry) removal.found →
    removal.reply.code = some 0 →
    (∀ exchange ∈ between, session.isPassive exchange.invocation) →
    found.Shows session.storage.isMemoryPlace
      (Function.update removal.found.fileAt? (session.storage.place entry) none) →
    (git (between ++ removal :: before) (session.recovery entry) found).files.Shows
      session.storage.isMemoryPlace removal.found.fileAt?
  stays : ∀ exchanges invocation found, (∀ entry, invocation ≠ session.recovery entry) →
    found.Hosts session.repository.workDirectory →
    (git exchanges invocation found).files.Hosts session.repository.workDirectory

theorem removal_ne_recovery (entry other : MemoryEntry) :
    session.removal entry ≠ session.recovery other := by
  intro same
  have sameArguments := invocation_injective same
  exact absurd (List.cons.inj sameArguments).1 (by decide)

/-- Where a removal could be started, a recovery can be. -/
theorem recovery_startable (removing : world.startFailure? (session.removal entry) = none)
    (programs : later.programs = world.programs)
    (hosts : later.files.Hosts session.repository.workDirectory) :
    later.startFailure? (session.recovery entry) = none := by
  rw [World.startFailure?_eq_none_iff] at removing ⊢
  rcases removing with ⟨noNull, -, runs, short⟩
  refine ⟨?_, hosts, World.programFailure?_of_programs programs runs, ?_⟩
  · simp only [Git.Invocation.holdsNull, removal, invocation, Git.Settings.invocation,
      List.any_cons, List.any_append, Bool.or_eq_false_iff] at noNull
    rcases noNull with ⟨program, settings, -, -, -, path, -⟩
    simp only [Git.Invocation.holdsNull, recovery, invocation, Git.Settings.invocation,
      List.any_cons, List.any_append, program, settings, path]
    decide
  · simp only [Git.Invocation.isTooLong, removal, invocation, Git.Settings.invocation,
      List.any_cons, List.any_append, Bool.or_eq_false_iff] at short
    rcases short with ⟨program, settings, -, -, -, path, -⟩
    simp only [Git.Invocation.isTooLong, recovery, invocation, Git.Settings.invocation,
      List.any_cons, List.any_append, program, settings, path]
    decide

theorem perform_commit (verb : String) :
    ((session.commit verb entry).perform holder world).2 =
      (world.start (session.invocation
        ["commit", "-q", "-m", session.subject verb entry, "--", entry.relativePath])).2 := by
  rw [commit, runGit, Task.perform_bind, perform_git]
  generalize world.start _ = started
  rcases started with ⟨answer, after⟩
  rcases session.config.git.accept _ [0] answer with failure | completion
  · rfl
  · simp only [Except.mapError_ok]
    rw [Task.perform_bind, head, Task.perform_inspect]
    rcases session.repository.head after.files with failure | _ | identifier
    · rfl
    · simp only [Except.mapError_ok, Task.perform_throw]
    · simp only [Except.mapError_ok, Task.perform_pure]

theorem hosts_start {arguments : List String} (relies : session.ReliesOn world.git)
    (noRecovery : ∀ other, session.invocation arguments ≠ session.recovery other)
    (hosts : world.files.Hosts session.repository.workDirectory) :
    (world.start (session.invocation arguments)).2.files.Hosts
      session.repository.workDirectory := by
  rcases startable : world.startFailure? (session.invocation arguments) with _ | failure
  · rw [World.start_of_none startable]
    exact relies.stays _ _ _ noRecovery hosts
  · rw [World.start_of_some startable]
    exact hosts

/-- A removal that could not be committed is taken back. -/
theorem shows_after_recovery (holder : Holder) (verb : String)
    (relies : session.ReliesOn world.git)
    (removing : world.startFailure? (session.removal entry) = none)
    (removed : (world.git world.exchanges (session.removal entry) world.files).code = some 0) :
    (((session.runGit ["checkout", "HEAD", "--", entry.relativePath]).attempt :
        Task ExecutionError Unit).perform holder ((session.commit verb entry).perform holder
          (world.exchanged (session.removal entry))).2).2.files.Shows
      session.storage.isMemoryPlace world.files.fileAt? := by
  have spares : (session.commit verb entry).Spares session.isPassive
      session.storage.isMemoryPlace :=
    spares_commit (isPassive_invocation (by decide) (by decide))
  have spared := spares holder (world.exchanged (session.removal entry)) relies.passive
  have hosts : ((session.commit verb entry).perform holder
      (world.exchanged (session.removal entry))).2.files.Hosts
        session.repository.workDirectory := by
    rw [perform_commit]
    have passive : session.isPassive (session.invocation
        ["commit", "-q", "-m", session.subject verb entry, "--", entry.relativePath]) :=
      isPassive_invocation (by decide) (by decide)
    refine hosts_start relies (fun other => (passive other).2) ?_
    apply relies.stays _ _ _ (removal_ne_recovery entry)
    exact (World.startFailure?_eq_none_iff.mp removing).2.1
  generalize (session.commit verb entry).perform holder
    (world.exchanged (session.removal entry)) = committed at spared hosts
  rcases committed with ⟨answer, between⟩
  rcases spared.exchanges with ⟨later, exchanges, passive⟩
  have started := World.start_of_none (recovery_startable removing spared.programs hosts)
  rw [recovery] at started
  rw [Task.perform_attempt, runGit, perform_git, started]
  have recovered := relies.recovered later ⟨session.removal entry, world.files, _⟩ world.exchanges
    entry between.files rfl rfl removed passive
    (spared.shows (relies.removed _ _ _ removed))
  rw [World.exchanged, spared.git, exchanges]
  exact recovered

/-- What a deletion comes to as far as the files of memories show: the memory's file is gone, or the
deletion failed and all files are as they were. -/
def Deleted (session : Session) (entry : MemoryEntry) (before : World) :
    Except ExecutionError Outcome × World → Prop
  | (.ok _, after) => after.files.Shows session.storage.isMemoryPlace
      (Function.update before.files.fileAt? (session.storage.place entry) none)
  | (.error _, after) => after.files.Shows session.storage.isMemoryPlace before.files.fileAt?

theorem deleted_of_resolved (holder : Holder) {reference : String}
    (relies : session.ReliesOn world.git)
    (resolved : session.storage.resolve? world.files reference = some entry) :
    session.Deleted entry world ((do
        let entry ← session.resolve reference
        let _ ← session.runGit ["rm", "-q", "--", entry.relativePath]
        let commit ← (session.commit "delete" entry).compensate
          (session.runGit ["checkout", "HEAD", "--", entry.relativePath]).attempt
        return .delete entry.relativePath commit :
      Task ExecutionError Outcome).perform holder world) := by
  have kept : world.files.Shows session.storage.isMemoryPlace world.files.fileAt? := by
    intro _ _
    rfl
  rw [Task.perform_bind_of_ok (perform_resolve_of_some holder resolved), Task.perform_bind, runGit,
    perform_git]
  rcases startable : world.startFailure? (session.removal entry) with _ | failure
  · have started := World.start_of_none startable
    rw [removal] at started
    rw [started]
    by_cases removed : (world.git world.exchanges (session.removal entry) world.files).code = some 0
    · have recovered := shows_after_recovery holder "delete" relies startable removed
      have spares : (session.commit "delete" entry).Spares session.isPassive
          session.storage.isMemoryPlace :=
        spares_commit (isPassive_invocation (by decide) (by decide))
      have spared := spares holder (world.exchanged (session.removal entry)) relies.passive
      have gone := spared.shows (relies.removed _ _ _ removed)
      rw [removal] at removed recovered gone
      rw [Git.Settings.accept_of_succeeded removed]
      simp only [Except.mapError_ok]
      rw [Task.perform_bind, Task.perform_compensate]
      generalize (session.commit "delete" entry).perform holder (world.exchanged _) = committed
        at recovered gone
      rcases committed with ⟨failure | commit, after⟩
      · exact recovered
      · simp only [Task.perform_pure]
        exact gone
    · have refused := relies.refused _ _ _ removed
      rw [removal] at removed refused
      rw [Git.Settings.accept_of_failed removed]
      exact refused
  · have started := World.start_of_some startable
    rw [removal] at started
    rw [started]
    exact kept

/-- A deletion removes a memory's file or changes none. -/
theorem deleted_of_entered {reference : String} (relies : session.ReliesOn world.git)
    (entered : session.enter? holder world = some locked)
    (resolved : session.storage.resolve? locked.files reference = some entry) :
    session.Deleted entry locked ((session.delete reference).perform holder world) := by
  have shelters := session.storage.shelters_isMemoryPlace
  have inside := deleted_of_resolved holder ((git_enter? entered).symm ▸ relies) resolved
  rw [delete, perform_exclusively_of_entered entered]
  generalize Task.perform holder _ locked = performed at inside
  rcases performed with ⟨failure | outcome, after⟩
  · exact shelters.release holder inside
  · exact shelters.release holder inside

/-- A deletion that may not begin, or that names no memory, fails and changes no memory. -/
theorem delete_fails {reference : String}
    (idle : ∀ locked, session.enter? holder world = some locked →
      session.storage.resolve? locked.files reference = none) :
    ∃ failure after, (session.delete reference).perform holder world = (.error failure, after) ∧
      after.files.Shows session.storage.isMemoryPlace world.files.fileAt? := by
  have shelters := session.storage.shelters_isMemoryPlace
  rcases entered : session.enter? holder world with _ | locked
  · rcases perform_exclusively_of_barred entered with ⟨failure, after, performed, -, same⟩
    refine ⟨failure, after, performed, ?_⟩
    intro place inside
    exact same place (shelters.ne_lockPlace inside)
  · have refused := perform_resolve_of_none holder (idle locked entered)
    rcases fails_exclusively shelters entered (Task.perform_bind_of_error refused _) with
      ⟨after, performed, same⟩
    refine ⟨_, after, performed, ?_⟩
    intro place inside
    rw [same place inside]
    exact (enter?_spec entered).2 place (shelters.ne_lockPlace inside)

/-- Git that removes the file of one memory and puts it back, and otherwise only refuses or does
not. -/
def tending (session : Session) (tended : MemoryEntry) (refuses : Git.Invocation → Bool) :
    Git.Behavior :=
  fun exchanges invocation found =>
    if invocation = session.removal tended then
      match found.removeFile (session.storage.place tended) with
      | .ok files => ⟨some 0, .empty, .empty, files⟩
      | .error _ => ⟨some 128, .empty, .empty, found⟩
    else if invocation = session.recovery tended then
      match exchanges.find? (·.invocation = session.removal tended) with
      | some removal => ⟨some 0, .empty, .empty, removal.found⟩
      | none => ⟨some 1, .empty, .empty, found⟩
    else ⟨some (if refuses invocation then 1 else 0), .empty, .empty, found⟩

section Tending

variable {tended : MemoryEntry} {refuses : Git.Invocation → Bool}

theorem removal_injective {left right : MemoryEntry}
    (same : session.removal left = session.removal right) : left = right := by
  have sameArguments := invocation_injective same
  simp only [List.cons.injEq, true_and, and_true] at sameArguments
  exact MemoryEntry.relativePath_injective sameArguments

theorem tending_of_ne {invocation : Git.Invocation}
    (noRemoval : invocation ≠ session.removal tended)
    (noRecovery : invocation ≠ session.recovery tended) (exchanges : List Exchange)
    (found : FileTree) :
    session.tending tended refuses exchanges invocation found =
      ⟨some (if refuses invocation then 1 else 0), .empty, .empty, found⟩ := by
  rw [tending, if_neg noRemoval, if_neg noRecovery]

theorem tending_removal (exchanges : List Exchange) (found : FileTree) :
    session.tending tended refuses exchanges (session.removal tended) found =
      match found.removeFile (session.storage.place tended) with
      | .ok files => ⟨some 0, .empty, .empty, files⟩
      | .error _ => ⟨some 128, .empty, .empty, found⟩ := by
  rw [tending, if_pos rfl]

/-- Such git can be relied on if it refuses to remove any other memory. -/
theorem reliesOn_tending (cautious : ∀ entry, entry ≠ tended → refuses (session.removal entry)) :
    session.ReliesOn (session.tending tended refuses) where
  passive := by
    constructor
    · intro exchanges invocation found place passive _
      rw [tending_of_ne (passive tended).1 (passive tended).2]
    · intro exchanges invocation found place passive _ present
      rwa [tending_of_ne (passive tended).1 (passive tended).2] at present
  removed := by
    intro exchanges entry found succeeded
    by_cases here : entry = tended
    · subst here
      rw [tending_removal] at succeeded ⊢
      rcases removed : found.removeFile (session.storage.place entry) with failure | files
      · simp [removed] at succeeded
      · intro place _
        exact congrFun (FileTree.fileAt?_of_removeFile removed) place
    · rw [tending_of_ne (mt removal_injective here) (removal_ne_recovery _ _)] at succeeded
      simp [cautious entry here] at succeeded
  refused := by
    intro exchanges entry found failed
    by_cases here : entry = tended
    · subst here
      rw [tending_removal] at failed ⊢
      rcases removed : found.removeFile (session.storage.place entry) with failure | files
      · intro _ _
        rfl
      · simp [removed] at failed
    · rw [tending_of_ne (mt removal_injective here) (removal_ne_recovery _ _)]
      intro _ _
      rfl
  recovered := by
    intro between removal before entry found isRemoval isReply succeeded passive _
    have here : entry = tended := by
      by_contra elsewhere
      rw [isReply, tending_of_ne (mt removal_injective elsewhere) (removal_ne_recovery _ _)]
        at succeeded
      simp [cautious entry elsewhere] at succeeded
    subst here
    have none_between : between.find? (·.invocation = session.removal entry) = none := by
      rw [List.find?_eq_none]
      intro exchange present
      simpa using (passive exchange present entry).1
    have latest : (between ++ removal :: before).find? (·.invocation = session.removal entry) =
        some removal := by
      rw [List.find?_append, none_between, Option.none_or, List.find?_cons_of_pos (by simpa)]
    rw [tending, if_neg (removal_ne_recovery entry entry).symm, if_pos rfl, latest]
    intro _ _
    rfl
  stays := by
    intro exchanges invocation found noRecovery hosts
    by_cases here : invocation = session.removal tended
    · subst here
      rw [tending_removal]
      rcases removed : found.removeFile (session.storage.place tended) with failure | files
      · exact hosts
      · refine FileTree.hosts_of_kept ?_ hosts
        intro place standing
        rcases FileTree.items_of_removeFile removed with ⟨-, noDirectory, items⟩
        have elsewhere : place ≠ session.storage.place tended := by
          rintro rfl
          exact noDirectory standing
        rw [items, Function.update_of_ne elsewhere, standing]
    · rw [tending_of_ne here (noRecovery tended)]
      exact hosts

end Tending

end Session

end MemoryKeeper

import MemoryKeeper.Proofs.Calls
import MemoryKeeper.Proofs.Commits
import MemoryKeeper.Proofs.Layers
import MemoryKeeper.Proofs.Spellings
import MemoryKeeper.Proofs.Vocabulary

/-!
# Transcripts of changes

A command that changes a memory has its transcript: git prepares the memory's file
and commits it, and the first call that fails is the last of these. If the change
did not come about, one more call takes it back, except that there is nothing to
take back of a removal that git refused.

The calls that a task makes and what it comes to are described together, since a
command goes on with the one or the other. Each part of a command is shown to make
the calls of its plan, and a failure is what makes the remedy due.
-/

namespace MemoryKeeper

namespace Session

variable {session : Session} {holder : Holder} {world locked prepared after : World}
  {entry : MemoryEntry} {verb path subject : String} {arguments : List String}
  {plan : List (List String)} {made : List Call} {operation : Operation}

/-- The call of git with some arguments in a world. -/
abbrev call (session : Session) (world : World) (arguments : List String) : Call :=
  ⟨world, session.invocation arguments⟩

/-- Whether calls are made with planned arguments in turn, each in the world that the one before
left, up to the first that fails; and the world that they leave. -/
inductive Follows (session : Session) : World → List (List String) → List Call → World → Prop
  | finished (world : World) : Follows session world [] [] world
  | refused {world : World} {arguments : List String} (later : List (List String))
      (fails : ¬(session.call world arguments).Succeeded) :
      Follows session world (arguments :: later) [session.call world arguments]
        (session.call world arguments).after
  | accepted {world after : World} {arguments : List String} {later : List (List String)}
      {made : List Call} (succeeds : (session.call world arguments).Succeeded)
      (onward : Follows session (session.call world arguments).after later made after) :
      Follows session world (arguments :: later) (session.call world arguments :: made) after

/-- Whether calls all succeeded and left a current commit. -/
structure IsComplete (session : Session) (made : List Call) (after : World) : Prop where
  accepted : ∀ call ∈ made, call.Succeeded
  current : ∃ identifier, session.repository.head after.files = .ok (some identifier)

/-- Whether a task makes planned calls in turn, and succeeds exactly if they are complete. -/
def Pursues {Result : Type} (session : Session) (plan : List (List String))
    (task : Task ExecutionError Result) : Prop :=
  ∀ (holder : Holder) (world : World),
    session.Follows world plan (task.calls holder world) (task.perform holder world).2 ∧
      ((task.perform holder world).1.toOption.isSome ↔
        session.IsComplete (task.calls holder world) (task.perform holder world).2)

theorem runGit_cases (arguments : List String) (holder : Holder) (world : World) :
    ((session.call world arguments).Succeeded ∧
      ∃ completion, (session.runGit arguments).perform holder world =
        (.ok completion, (session.call world arguments).after)) ∨
    (¬(session.call world arguments).Succeeded ∧
      ∃ failure, (session.runGit arguments).perform holder world =
        (.error failure, (session.call world arguments).after)) := by
  rw [runGit, perform_git]
  rcases answered : (world.start (session.invocation arguments)).1 with failure | completion
  · right
    refine ⟨?_, _, rfl⟩
    rintro ⟨completion, answer, -⟩
    cases answered.symm.trans answer
  · by_cases succeeds : completion.code = some 0
    · left
      rw [Git.Settings.accept_of_succeeded succeeds]
      exact ⟨⟨completion, answered, succeeds⟩, completion, rfl⟩
    · right
      rw [Git.Settings.accept_of_failed succeeds]
      refine ⟨?_, _, rfl⟩
      rintro ⟨other, answer, succeeded⟩
      cases answered.symm.trans answer
      exact succeeds succeeded

theorem isComplete_cons {call : Call} (succeeds : call.Succeeded) :
    session.IsComplete (call :: made) after ↔ session.IsComplete made after := by
  constructor
  · rintro ⟨accepted, current⟩
    exact ⟨fun other isMade => accepted other (List.mem_cons_of_mem call isMade), current⟩
  · rintro ⟨accepted, current⟩
    exact ⟨List.forall_mem_cons.mpr ⟨succeeds, accepted⟩, current⟩

theorem not_isComplete_of_failed {call : Call} (fails : ¬call.Succeeded) :
    ¬session.IsComplete [call] after := by
  intro complete
  exact fails (complete.accepted call List.mem_cons_self)

theorem commit_succeeds_iff {completion : Git.Completion}
    (ran : (session.runGit
      ["commit", "-q", "-m", session.subject verb entry, "--", entry.relativePath]).perform
        holder world = (.ok completion, after)) :
    ((session.commit verb entry).perform holder world).1.toOption.isSome ↔
      ∃ identifier, session.repository.head after.files = .ok (some identifier) := by
  rw [commit, Task.perform_bind_of_ok ran, Task.perform_bind, head, Task.perform_inspect]
  rcases found : session.repository.head after.files with failure | _ | identifier
  · simp [Except.mapError, Except.toOption]
  · simp [Except.toOption]
  · simp [Except.toOption]

theorem pursues_commit (verb : String) (entry : MemoryEntry) :
    session.Pursues [["commit", "-q", "-m", session.subject verb entry, "--", entry.relativePath]]
      (session.commit verb entry) := by
  intro holder world
  rw [calls_commit, perform_commit]
  rcases session.runGit_cases
    ["commit", "-q", "-m", session.subject verb entry, "--", entry.relativePath] holder world with
    ⟨succeeds, completion, ran⟩ | ⟨fails, failure, ran⟩
  · rw [commit_succeeds_iff ran, isComplete_cons succeeds]
    refine ⟨.accepted succeeds (.finished _), ?_⟩
    constructor
    · intro current
      exact ⟨by simp, current⟩
    · exact IsComplete.current
  · rw [commit, Task.perform_bind_of_error ran]
    refine ⟨.refused [] fails, ?_⟩
    simp [not_isComplete_of_failed fails, Except.toOption]

/-- A task behind a call of git is gone on with only if that succeeds. -/
theorem Pursues.after_runGit {Result : Type} {task : Task ExecutionError Result}
    (pursues : session.Pursues plan task) (arguments : List String) :
    session.Pursues (arguments :: plan) (session.runGit arguments >>= fun _ => task) := by
  intro holder world
  rcases session.runGit_cases arguments holder world with
    ⟨succeeds, completion, ran⟩ | ⟨fails, failure, ran⟩
  · rcases pursues holder (session.call world arguments).after with ⟨follows, answers⟩
    rw [Task.calls_bind_of_ok ran, Task.perform_bind_of_ok ran, runGit, calls_git,
      List.singleton_append, answers, isComplete_cons succeeds]
    exact ⟨.accepted succeeds follows, Iff.rfl⟩
  · rw [Task.calls_bind_of_error ran, Task.perform_bind_of_error ran, runGit, calls_git]
    refine ⟨.refused plan fails, ?_⟩
    simp [not_isComplete_of_failed fails, Except.toOption]

theorem pursues_addAndCommit (verb : String) (entry : MemoryEntry) :
    session.Pursues
      [["add", "--", entry.relativePath],
        ["commit", "-q", "-m", session.subject verb entry, "--", entry.relativePath]]
      (session.addAndCommit verb entry) :=
  (session.pursues_commit verb entry).after_runGit ["add", "--", entry.relativePath]

/-- A task that is compensated makes the calls of its remedy if it is not complete. -/
theorem Pursues.calls_compensate {Result : Type} {task : Task ExecutionError Result}
    (pursues : session.Pursues plan task) (remedy : Task ExecutionError Unit) (holder : Holder)
    (world : World) :
    let finished := (task.perform holder world).2
    ∃ remedies, (task.compensate remedy).calls holder world = task.calls holder world ++ remedies ∧
      (session.IsComplete (task.calls holder world) finished → remedies = []) ∧
      (¬session.IsComplete (task.calls holder world) finished →
        remedies = remedy.calls holder finished) := by
  intro finished
  refine ⟨_, task.calls_compensate remedy, ?_⟩
  have answers := (pursues holder world).2
  simp only [finished]
  rcases performed : task.perform holder world with ⟨failure | result, between⟩
  · rw [performed] at answers
    refine ⟨?_, fun _ => rfl⟩
    intro complete
    cases answers.mpr complete
  · rw [performed] at answers
    refine ⟨fun _ => rfl, ?_⟩
    intro incomplete
    exact absurd (answers.mp rfl) incomplete

/-- What git is asked to do to a path before it is committed. -/
def preparation : Operation → String → List String
  | .delete, path => ["rm", "-q", "--", path]
  | _, path => ["add", "--", path]

/-- What git is asked to do to a path when a change of it is taken back. -/
def remedy : Operation → String → List String
  | .create, path => ["reset", "-q", "--", path]
  | .delete, path => ["checkout", "HEAD", "--", path]
  | _, path => ["add", "--", path]

/-- Whether a change has to be taken back: it was not completed, and a removal was not refused. -/
def NeedsRemedy (session : Session) (operation : Operation) (made : List Call) (after : World) :
    Prop :=
  ¬session.IsComplete made after ∧
    (operation = .delete → ∀ first ∈ made.head?, first.Succeeded)

/-- What happens to a memory's file before git is asked to take a change back: an update puts the
old text back, which succeeds if git left the file alone. -/
inductive Restored (session : Session) (holder : Holder) (entry : MemoryEntry) (locked : World) :
    Operation → World → World → Prop
  | create (after : World) : Restored session holder entry locked .create after after
  | delete (after : World) : Restored session holder entry locked .delete after after
  | update {previous : String} {answer : Except StoreError Unit} {after restored : World}
      (held : session.storage.textOf locked.files entry = .ok previous)
      (performed : (session.storage.restore entry previous).perform holder after =
        (answer, restored))
      (puts : answer = .ok () → restored.files.fileAt? (session.storage.place entry) =
        locked.files.fileAt? (session.storage.place entry))
      (succeeds : Git.Spares locked.git session.isPassive session.storage.isMemoryPlace →
        FileTree.fits (session.storage.draftPlace entry) → answer = .ok ()) :
      Restored session holder entry locked .update after restored

/-- Whether calls are those of a change: the preparation and the commit up to the first that fails,
and behind them a remedy if one is needed. -/
def IsTranscript (session : Session) (holder : Holder) (locked prepared : World)
    (operation : Operation) (entry : MemoryEntry) (path subject : String) (calls : List Call) :
    Prop :=
  ∃ made remedies after, calls = made ++ remedies ∧
    session.Follows prepared
      [preparation operation path, ["commit", "-q", "-m", subject, "--", path]] made after ∧
    (session.NeedsRemedy operation made after → ∃ restored,
      session.Restored holder entry locked operation after restored ∧
      remedies = [session.call restored (remedy operation path)]) ∧
    (¬session.NeedsRemedy operation made after → remedies = [])

theorem needsRemedy_iff (noDelete : operation ≠ .delete) :
    session.NeedsRemedy operation made after ↔ ¬session.IsComplete made after := by
  simp [NeedsRemedy, noDelete]

/-- Once a first call succeeded, only the calls behind it decide. -/
theorem needsRemedy_cons {first : Call} (succeeds : first.Succeeded) :
    session.NeedsRemedy operation (first :: made) after ↔ ¬session.IsComplete made after := by
  rw [NeedsRemedy, isComplete_cons succeeds, and_iff_left_iff_imp]
  rintro - - call ⟨rfl⟩
  exact succeeds

theorem isTranscript_addAndCommit {remedying : Task ExecutionError Unit}
    (noDelete : operation ≠ .delete)
    (remedies : let between := ((session.addAndCommit verb entry).perform holder prepared).2
      ∃ restored, session.Restored holder entry locked operation between restored ∧
        remedying.calls holder between =
          [session.call restored (remedy operation entry.relativePath)]) :
    session.IsTranscript holder locked prepared operation entry entry.relativePath
      (session.subject verb entry)
      (((session.addAndCommit verb entry).compensate remedying).calls holder prepared) := by
  have pursues := session.pursues_addAndCommit verb entry
  have adds : preparation operation entry.relativePath = ["add", "--", entry.relativePath] := by
    cases operation with
    | delete => exact absurd rfl noDelete
    | _ => rfl
  rcases pursues.calls_compensate remedying holder prepared with
    ⟨made, calls, whenComplete, otherwise⟩
  rcases remedies with ⟨restored, isRestored, asked⟩
  refine ⟨_, made, ((session.addAndCommit verb entry).perform holder prepared).2, calls, ?_, ?_, ?_⟩
  · rw [adds]
    exact (pursues holder prepared).1
  · intro needed
    refine ⟨restored, isRestored, ?_⟩
    rw [← asked]
    exact otherwise ((needsRemedy_iff noDelete).mp needed)
  · intro notNeeded
    rw [needsRemedy_iff noDelete, not_not] at notNeeded
    exact whenComplete notNeeded

/-- Whether a command that changes a memory finds what it needs, and the world in which it begins to
call git: the slug of a new memory is free, a reference names a memory, the text that is to be
replaced can be read, and what has to be written is written. -/
inductive Ready (session : Session) (holder : Holder) (locked : World) :
    Command → MemoryEntry → World → Prop
  | create {symbol : Symbol} {slug : Slug} {content : String} {prepared : World}
      (free : session.storage.find? locked.files slug = none)
      (written : (session.storage.write ⟨symbol, slug⟩
        (Document.new symbol slug content locked.now).render).perform holder locked =
          (.ok (), prepared)) :
      Ready session holder locked (.create symbol slug content) ⟨symbol, slug⟩ prepared
  | update {reference content previous : String} {entry : MemoryEntry} {document : Document}
      {prepared : World}
      (resolved : session.storage.resolve? locked.files reference = some entry)
      (held : session.storage.textOf locked.files entry = .ok previous)
      (read : Storage.documentOf entry locked.now previous = .ok document)
      (written : (session.storage.write entry
        (document.revise content locked.now).render).perform holder locked = (.ok (), prepared)) :
      Ready session holder locked (.update reference content) entry prepared
  | delete {reference : String} {entry : MemoryEntry}
      (resolved : session.storage.resolve? locked.files reference = some entry) :
      Ready session holder locked (.delete reference) entry locked

theorem isTranscript_create {symbol : Symbol} {slug : Slug} {content : String}
    (entered : session.enter? holder world = some locked)
    (free : session.storage.find? locked.files slug = none)
    (written : (session.storage.write ⟨symbol, slug⟩
      (Document.new symbol slug content locked.now).render).perform holder locked =
        (.ok (), prepared)) :
    session.IsTranscript holder locked prepared .create ⟨symbol, slug⟩
      (MemoryEntry.relativePath ⟨symbol, slug⟩) (session.subject "create" ⟨symbol, slug⟩)
      ((session.create symbol slug content).calls holder world) := by
  have created : ((session.storage.create ⟨symbol, slug⟩ content).mapFailure
      ExecutionError.store).perform holder locked = (.ok ⟨symbol, slug⟩, prepared) := by
    rw [perform_storage_create (by exact free), written]
    rfl
  rw [create, calls_exclusively entered, Task.calls_bind_of_ok created, Task.calls_mapFailure,
    (Storage.silent_create content).calls_eq_nil, List.nil_append, Task.calls_bind_pure]
  refine isTranscript_addAndCommit (by decide) ⟨_, .create _, ?_⟩
  rw [Task.calls_attempts, runGit, calls_git]
  exact congrArg (_ :: ·) ((Storage.silent_change _).calls_eq_nil holder _)

/-- What an update wrote stays until the old text is put back, if git leaves it alone. -/
theorem restored_update {reference previous text : String}
    (resolved : session.storage.resolve? locked.files reference = some entry)
    (held : session.storage.textOf locked.files entry = .ok previous)
    (performed : (session.storage.write entry text).perform holder locked = (.ok (), prepared)) :
    let between := ((session.addAndCommit "update" entry).perform holder prepared).2
    session.Restored holder entry locked .update between
      ((session.storage.restore entry previous).perform holder between).2 := by
  intro between
  have restores : session.storage.Written entry previous between
      ((session.storage.restore entry previous).perform holder between).1
      ((session.storage.restore entry previous).perform holder between).2 := Storage.written_write
  refine .update held rfl ?_ ?_
  · intro succeeded
    rw [succeeded] at restores
    rw [restores.fileAt?_of_ok]
    exact (Storage.fileAt?_of_textOf (Storage.holds_of_resolve? resolved) held).symm
  -- What was written is still there, so the old text is written over a file.
  · intro sparing fitting
    have shelters := session.storage.shelters_isMemoryPlace
    have written : session.storage.Written entry text locked
        ((session.storage.write entry text).perform holder locked).1
        ((session.storage.write entry text).perform holder locked).2 := Storage.written_write
    have git := (session.storage.write entry text).git_perform holder locked
    rw [performed] at written git
    have spares : (session.addAndCommit "update" entry).Spares session.isPassive
        session.storage.isMemoryPlace :=
      spares_addAndCommit (isPassive_invocation (by decide) (by decide))
        (isPassive_invocation (by decide) (by decide))
    have spared := spares holder prepared (git.symm ▸ sparing)
    have present := (spared.files _ (shelters.places entry)).trans written.fileAt?_of_ok
    refine restores.eq_ok present ?_ fitting
    intro directory
    have directoryBefore := spared.directories _ (shelters.drafts entry) directory
    cases written with
    | done opens free files cleared outside =>
        rw [cleared] at directoryBefore
        cases directoryBefore

theorem isTranscript_update {reference content previous : String} {document : Document}
    (entered : session.enter? holder world = some locked)
    (resolved : session.storage.resolve? locked.files reference = some entry)
    (held : session.storage.textOf locked.files entry = .ok previous)
    (read : Storage.documentOf entry locked.now previous = .ok document)
    (written : (session.storage.write entry
      (document.revise content locked.now).render).perform holder locked = (.ok (), prepared)) :
    session.IsTranscript holder locked prepared .update entry entry.relativePath
      (session.subject "update" entry) ((session.update reference content).calls holder world) := by
  have reads : ((session.storage.read entry).mapFailure ExecutionError.store).perform holder
      locked = (.ok previous, locked) := by
    rw [perform_read, held]
    rfl
  have updated : ((session.storage.update entry content).mapFailure ExecutionError.store).perform
      holder locked = (.ok (document.revise content locked.now), prepared) := by
    rw [perform_storage_update held read, written]
    rfl
  rw [update, calls_exclusively entered,
    Task.calls_bind_of_ok (perform_resolve_of_some holder resolved),
    (silent_resolve reference).calls_eq_nil, List.nil_append, Task.calls_bind_of_ok reads,
    Task.calls_mapFailure, Storage.silent_read.calls_eq_nil, List.nil_append,
    Task.calls_bind_of_ok updated, Task.calls_mapFailure,
    (Storage.silent_update content).calls_eq_nil, List.nil_append, Task.calls_bind_pure]
  refine isTranscript_addAndCommit (by decide) ?_
  intro between
  refine ⟨((session.storage.restore entry previous).perform holder between).2,
    restored_update resolved held written, ?_⟩
  rw [Task.calls_attempts, Storage.restore, (Storage.silent_write previous).calls_eq_nil,
    List.nil_append, runGit, calls_git]
  rfl

theorem isTranscript_delete {reference : String}
    (entered : session.enter? holder world = some locked)
    (resolved : session.storage.resolve? locked.files reference = some entry) :
    session.IsTranscript holder locked locked .delete entry entry.relativePath
      (session.subject "delete" entry) ((session.delete reference).calls holder world) := by
  rw [delete, calls_exclusively entered,
    Task.calls_bind_of_ok (perform_resolve_of_some holder resolved),
    (silent_resolve reference).calls_eq_nil, List.nil_append]
  rcases session.runGit_cases ["rm", "-q", "--", entry.relativePath] holder locked with
    ⟨succeeds, completion, ran⟩ | ⟨fails, failure, ran⟩
  · have pursues := session.pursues_commit "delete" entry
    rw [Task.calls_bind_of_ok ran, runGit, calls_git, Task.calls_bind_pure]
    rcases pursues.calls_compensate
      (session.runGit ["checkout", "HEAD", "--", entry.relativePath]).attempt holder
      (session.call locked ["rm", "-q", "--", entry.relativePath]).after with
      ⟨remedies, calls, whenComplete, otherwise⟩
    rw [Task.calls_attempt, runGit, calls_git] at otherwise
    refine ⟨_ :: _, remedies, _, congrArg (_ :: ·) calls, .accepted succeeds (pursues _ _).1,
      ?_, ?_⟩
    · intro needed
      exact ⟨_, .delete _, otherwise ((needsRemedy_cons succeeds).mp needed)⟩
    · intro notNeeded
      rw [needsRemedy_cons succeeds, not_not] at notNeeded
      exact whenComplete notNeeded
  -- Nothing was removed, so there is nothing to put back.
  · rw [Task.calls_bind_of_error ran, runGit, calls_git]
    refine ⟨[session.call locked ["rm", "-q", "--", entry.relativePath]], [], _, rfl,
      .refused _ fails, ?_, fun _ => rfl⟩
    intro needed
    exact absurd (needed.2 rfl _ rfl) fails

end Session

namespace RepositorySettings

theorem isBroken_append (left right : String) :
    isBroken (left ++ right) = (isBroken left || isBroken right) := by
  rw [isBroken, String.toList_append, List.any_append]
  rfl

end RepositorySettings

theorem Slug.not_isBroken_text (slug : Slug) : RepositorySettings.isBroken slug.text = false := by
  rw [RepositorySettings.isBroken, List.any_eq_false]
  intro character inside broken
  have allowed := isSlugChar_of_mem inside
  rw [Bool.or_eq_true, decide_eq_true_eq, decide_eq_true_eq] at broken
  rcases broken with rfl | rfl
  · exact absurd allowed (by decide)
  · exact absurd allowed (by decide)

theorem Config.not_isBroken_subjectStart {config : Config}
    (valid : ∀ settings ∈ config.repository, settings.validate = .ok ()) :
    RepositorySettings.isBroken config.subjectStart = false := by
  rcases subjectStart_eq_iff.mp rfl with ⟨settings, given, named⟩ | ⟨-, isStandard⟩
  · have usable := RepositorySettings.validate_eq_ok_iff.mp (valid settings given)
    exact RepositorySettings.isBroken_eq_false_iff.mpr (usable.oneLine _ named)
  · rw [isStandard]
    decide

namespace Session

variable {session : Session} {holder : Holder} {world locked prepared : World}
  {command : Command} {entry : MemoryEntry}

theorem not_isBroken_subject (operation : Operation) (entry : MemoryEntry)
    (valid : ∀ settings ∈ session.config.repository, settings.validate = .ok ()) :
    RepositorySettings.isBroken (session.subject operation.name entry) = false := by
  have name : RepositorySettings.isBroken operation.name = false := by
    cases operation <;> decide
  have glyph : RepositorySettings.isBroken entry.symbol.glyph = false := by
    cases entry.symbol <;> decide
  have colon : RepositorySettings.isBroken ": " = false := by decide
  have blank : RepositorySettings.isBroken " " = false := by decide
  simp only [subject, RepositorySettings.isBroken_append, Config.not_isBroken_subjectStart valid,
    colon, name, blank, glyph, entry.slug.not_isBroken_text, Bool.or_false]

theorem isTranscript_execute (entered : session.enter? holder world = some locked)
    (ready : session.Ready holder locked command entry prepared) :
    session.IsTranscript holder locked prepared command.operation entry entry.relativePath
      (session.subject command.operation.name entry)
      ((session.execute command).calls holder world) := by
  cases ready with
  | create free written => exact isTranscript_create entered free written
  | update resolved held read written =>
      exact isTranscript_update entered resolved held read written
  | delete resolved => exact isTranscript_delete entered resolved

/-- A change that begins asks git for its preparation and its commit, up to the first refusal, and
for its remedy exactly if that is needed. All of it is about one file. The subject of the commit
starts as the repository's settings say, or in the standard way where they say nothing, and it is
one line if they are valid. -/
theorem calls_of_change (entered : session.enter? holder world = some locked)
    (ready : session.Ready holder locked command entry prepared) :
    ∃ path start subject,
      (∃ made remedies after,
        (session.execute command).calls holder world = made ++ remedies ∧
        session.Follows prepared
          [preparation command.operation path, ["commit", "-q", "-m", subject, "--", path]]
          made after ∧
        (session.NeedsRemedy command.operation made after → ∃ restored,
          session.Restored holder entry locked command.operation after restored ∧
          remedies = [session.call restored (remedy command.operation path)]) ∧
        (¬session.NeedsRemedy command.operation made after → remedies = [])) ∧
      (∀ before arguments, (session.call before arguments).invocation.arguments =
        leading session.config.repository ++ arguments) ∧
      path = Vocabulary.path entry ∧ Command.IsSlugText entry.slug.text ∧
      ((∃ settings ∈ session.config.repository, settings.subjectStart = some start) ∨
        (∀ settings ∈ session.config.repository, settings.subjectStart = none) ∧
          start = "memory") ∧
      subject = start ++ ": " ++ Vocabulary.name command.operation ++ " " ++
        Vocabulary.glyph entry.symbol ++ " " ++ entry.slug.text ∧
      ((∀ settings ∈ session.config.repository, settings.validate = .ok ()) →
        '\n' ∉ subject.toList ∧ '\r' ∉ subject.toList) := by
  refine ⟨entry.relativePath, session.config.subjectStart,
    session.subject command.operation.name entry, isTranscript_execute entered ready,
    fun _ => session.arguments_invocation, Vocabulary.relativePath_eq_path entry,
    Command.isSlugText_text entry.slug, Config.subjectStart_eq_iff.mp rfl, ?_, ?_⟩
  · rw [subject, Vocabulary.name_eq, Vocabulary.glyph_eq]
  · intro valid
    exact RepositorySettings.notMem_of_not_isBroken (session.not_isBroken_subject _ entry valid)

/-- Git that refuses every commit. -/
def refusingCommits : Git.Behavior :=
  fun _ invocation found =>
    ⟨some (if invocation.arguments.contains "commit" then 1 else 0), .empty, .empty, found⟩

/-- An update that git does not commit has its file added once more. The settings name a program at
a path, the start of the subject and an identity. -/
theorem calls_of_refused_update :
    let settings : RepositorySettings := ⟨some "notes", some "Bot", some "bot@example.com"⟩
    let program := "/usr/local/bin/git"
    let session : Session := { plain with config := ⟨⟨some program, none⟩, some settings⟩ }
    let command : Command := .update "x" "new"
    let entry : MemoryEntry := ⟨.insight, ⟨"x", by decide⟩⟩
    let tree := [("memories", .directory [("insight", .directory
      [("x.md", .file (Text.encode "old") none)])])]
    let world : World := { World.plain tree refusingCommits with programs := [program] }
    let calls := (session.execute command).calls 0 world
    let line (arguments : List String) : List String :=
      [program, "-c", "core.quotepath=off", "-c", "user.name=Bot",
        "-c", "user.email=bot@example.com"] ++ arguments
    ∃ locked prepared, session.enter? 0 world = some locked ∧
      session.Ready 0 locked command entry prepared ∧
      (∃ path subject, session.IsTranscript 0 locked prepared .update entry path subject calls ∧
        '\n' ∉ subject.toList ∧ '\r' ∉ subject.toList ∧ subject = "notes: update 💡 x") ∧
      calls.map (fun call => call.invocation.program :: call.invocation.arguments) =
        [line ["add", "--", "memories/insight/x.md"],
          line ["commit", "-q", "-m", "notes: update 💡 x", "--", "memories/insight/x.md"],
          line ["add", "--", "memories/insight/x.md"]] := by
  intro settings program session command entry tree world calls line
  let locked := (session.enter? 0 world).getD world
  let document := Document.new .insight entry.slug "old" locked.now
  let performed := (session.storage.write entry
    (document.revise "new" locked.now).render).perform 0 locked
  have entered : session.enter? 0 world = some locked := by
    have begins : (session.enter? 0 world).isSome := by decide +kernel
    exact (Option.getD_of_ne_none (Option.isSome_iff_ne_none.mp begins) world).symm
  have held : (session.storage.textOf locked.files entry).toOption = some "old" := by
    decide +kernel
  have read : Storage.documentOf entry locked.now "old" = .ok document := by
    have bare : Document.read "old" = .error .missingHeader := by decide +kernel
    rw [Storage.documentOf, bare]
  have writes : performed.1.toOption = some () := by decide +kernel
  have ready : session.Ready 0 locked command entry performed.2 := by
    refine .update ?_ (Except.eq_ok_of_toOption held) read ?_
    · decide +kernel
    · exact Prod.ext (Except.eq_ok_of_toOption writes) rfl
  rcases calls_of_change entered ready with
    ⟨path, start, subject, transcript, -, -, -, given, spelled, oneLine⟩
  have whole := oneLine (by
    rintro _ ⟨⟩
    decide)
  have isNotes : start = "notes" := by
    rcases given with ⟨_, ⟨⟩, named⟩ | ⟨unset, -⟩
    · exact (Option.some.inj named).symm
    · cases unset settings rfl
  subst isNotes
  exact ⟨locked, performed.2, entered, ready,
    ⟨path, subject, transcript, whole.1, whole.2, spelled.trans (by decide)⟩, by decide +kernel⟩

end Session

end MemoryKeeper

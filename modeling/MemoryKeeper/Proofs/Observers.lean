import MemoryKeeper.Proofs.Calls
import MemoryKeeper.Proofs.Sights

/-!
# Commands that only look

A command that only reads looks at the memories and at the current commit, and
asks git to print something. This is read off its tree of steps, which has no
change and no lock in it: whatever becomes of the files was done by git. What a
step looks at decides how the command goes on, so worlds that look alike to it,
and whose git answers alike, get the same answer.

Who has the lock is not among the things that are looked at, and neither are the
files of a paused operation.
-/

namespace MemoryKeeper

open MemoryKeeper.Path (Location)

/-- Whether exchanges, the last one first, lead from files to others with nothing done in between:
each process finds what the one before it left. -/
def Exchange.Lead (start : FileTree) : List Exchange → FileTree → Prop
  | [], last => last = start
  | exchange :: earlier, last => last = exchange.reply.files ∧ Lead start earlier exchange.found

theorem Exchange.Lead.trans {start middle last : FileTree} {near far : List Exchange}
    (first : Lead start near middle) (second : Lead middle far last) :
    Lead start (far ++ near) last := by
  induction far generalizing last with
  | nil =>
      have ended : last = middle := second
      exact ended ▸ first
  | cons exchange far ih => exact ⟨second.1, ih second.2⟩

namespace World

/-- Whether all that happened to the files between a world and a later one was done by processes of
git, each of which found what the one before it left. -/
def LeftToGit (before after : World) : Prop :=
  ∃ made, after.exchanges = made ++ before.exchanges ∧
    Exchange.Lead before.files made after.files

theorem LeftToGit.refl (world : World) : world.LeftToGit world :=
  ⟨[], rfl, rfl⟩

theorem LeftToGit.trans {first second third : World} (near : first.LeftToGit second)
    (far : second.LeftToGit third) : first.LeftToGit third := by
  rcases near with ⟨early, earlyExchanges, earlyLead⟩
  rcases far with ⟨late, lateExchanges, lateLead⟩
  refine ⟨late ++ early, ?_, earlyLead.trans lateLead⟩
  rw [lateExchanges, earlyExchanges, List.append_assoc]

/-- Whether a process can be started is a matter of the files and the programs. -/
theorem startFailure?_congr {world later : World} (files : later.files = world.files)
    (programs : later.programs = world.programs) (invocation : Git.Invocation) :
    later.startFailure? invocation = world.startFailure? invocation := by
  delta startFailure? directoryFailure? programFailure?
  rw [files, programs]

theorem leftToGit_start (invocation : Git.Invocation) (world : World) :
    world.LeftToGit (world.start invocation).2 := by
  rcases start_cases invocation world with same | called
  · rw [same]
    exact .refl world
  · rw [called]
    exact ⟨[⟨invocation, world.files, _⟩], rfl, rfl, rfl⟩

end World

namespace Git

/-- The subcommands that print something. -/
def readingSubcommands : List String :=
  ["grep", "log", "show", "diff"]

/-- The subcommands that change the repository or the work tree. -/
def changingSubcommands : List String :=
  ["add", "rm", "commit", "reset", "checkout"]

/-- The entries of a git directory that paused operations leave. -/
def State.traces : List String :=
  ["rebase-merge", "rebase-apply", "MERGE_HEAD", "REVERT_HEAD", "CHERRY_PICK_HEAD", "BISECT_LOG"]

/-- Git that answers by a script, whatever it is asked, and leaves the files as they are. -/
def scripted (script : Nat → Completion) : Behavior :=
  fun exchanges _ found =>
    ⟨(script exchanges.length).code, Text.encode (script exchanges.length).output,
      Text.encode (script exchanges.length).complaint, found⟩

end Git

namespace Session

/-- Whether a process runs git with one of some subcommands. -/
def IsAmong (session : Session) (subcommands : List String) (invocation : Git.Invocation) : Prop :=
  ∃ subcommand ∈ subcommands, ∃ arguments,
    invocation = session.invocation (subcommand :: arguments)

/-- Trees that a command cannot tell apart which only reads: each memory reads the same, and the
current commit is the same. -/
structure SeesAlike (session : Session) (left right : FileTree) : Prop where
  memories : ∀ entry, left.readText (session.storage.place entry) =
    right.readText (session.storage.place entry)
  head : session.repository.head left = session.repository.head right

/-- A program that only looks at memories and the current commit and asks git to print. -/
inductive Reads (session : Session) {Result : Type} : Program Result → Prop where
  | done (value : Result) : Reads session (.done value)
  | observe {next : View → Program Result}
      (blind : ∀ left right : View, session.SeesAlike left.files right.files →
        next left = next right)
      (onward : ∀ view, Reads session (next view)) : Reads session (.observe next)
  | ask {invocation : Git.Invocation}
      {next : Except Git.StartFailure Git.Completion → Program Result}
      (prints : session.IsAmong Git.readingSubcommands invocation)
      (onward : ∀ answer, Reads session (next answer)) : Reads session (.start invocation next)

/-- A relation of worlds that a command cannot tell apart which only reads, now or later: they look
alike, and git answers alike in them and keeps them related. -/
structure Indistinct (session : Session) (alike : World → World → Prop) : Prop where
  sees : ∀ {left right}, alike left right → session.SeesAlike left.files right.files
  answers : ∀ {left right invocation}, alike left right →
    session.IsAmong Git.readingSubcommands invocation →
    (left.start invocation).1 = (right.start invocation).1
  onward : ∀ {left right invocation}, alike left right →
    session.IsAmong Git.readingSubcommands invocation →
    alike (left.start invocation).2 (right.start invocation).2

variable {session : Session} {left right : FileTree}

namespace Reads

variable {Result Other : Type} {program : Program Result} {holder : Holder} {world : World}

theorem bind {next : Result → Program Other} (reads : session.Reads program)
    (onward : ∀ value, session.Reads (next value)) : session.Reads (program.bind next) := by
  induction reads with
  | done value => exact onward value
  | observe blind _ ih =>
      refine .observe (fun left right alike => ?_) ih
      rw [blind left right alike]
  | ask prints _ ih => exact .ask prints ih

theorem leftToGit (reads : session.Reads program) (holder : Holder) (world : World) :
    world.LeftToGit (program.run holder world).2 := by
  induction reads generalizing world with
  | done value => exact .refl world
  | observe _ _ ih => exact ih world.toView world
  | ask _ _ ih => exact (World.leftToGit_start _ world).trans (ih _ _)

theorem issues (reads : session.Reads program) :
    program.Issues (session.IsAmong Git.readingSubcommands) := by
  intro holder world call made
  induction reads generalizing world with
  | done value => cases made
  | observe _ _ ih => exact ih world.toView world made
  | ask prints _ ih =>
      rcases List.mem_cons.mp made with rfl | late
      · exact prints
      · exact ih _ _ late

/-- Worlds that cannot be told apart get the same result, whoever runs the program in them. -/
theorem result_eq {alike : World → World → Prop} (reads : session.Reads program)
    (indistinct : session.Indistinct alike) (one other : Holder) {left right : World}
    (related : alike left right) : (program.run one left).1 = (program.run other right).1 := by
  -- by the steps of the program: after each call both worlds are other ones, and still related
  induction reads generalizing left right with
  | done value => rfl
  | observe blind _ ih =>
      simp only [Program.run]
      rw [blind _ right.toView (indistinct.sees related)]
      exact ih _ related
  | ask prints _ ih =>
      simp only [Program.run]
      rw [indistinct.answers related prints]
      exact ih _ (indistinct.onward related prints)

section Tasks

variable {Failure OtherFailure Value : Type} {task : Task Failure Result}

theorem bind_task {next : Result → Task Failure Value} (reads : session.Reads task.run)
    (onward : ∀ value, session.Reads (next value).run) :
    session.Reads (task >>= next).run := by
  have behind : ∀ answer, session.Reads (ExceptT.bindCont next answer) := by
    rintro (failure | value)
    · exact .done _
    · exact onward value
  exact reads.bind behind

theorem mapFailure {express : Failure → OtherFailure} (reads : session.Reads task.run) :
    session.Reads (task.mapFailure express).run :=
  reads.bind fun _ => .done _

theorem inspecting {look : View → Except Failure Result}
    (blind : ∀ left right : View, session.SeesAlike left.files right.files →
      look left = look right) : session.Reads (Task.inspect look).run := by
  refine .observe (fun left right alike => ?_) fun _ => .done _
  rw [blind left right alike]

theorem observing {look : View → Result}
    (blind : ∀ left right : View, session.SeesAlike left.files right.files →
      look left = look right) : session.Reads (Task.observe look : Task Failure Result).run := by
  refine .observe (fun left right alike => ?_) fun _ => .done _
  rw [blind left right alike]

theorem testing (outcome : Except Failure Result) :
    session.Reads (liftM outcome : Task Failure Result).run := by
  cases outcome <;> exact .done _

end Tasks

theorem git {subcommand : String} {arguments : List String}
    (prints : subcommand ∈ Git.readingSubcommands) (accepted : List Int) :
    session.Reads (session.git (subcommand :: arguments) accepted).run :=
  .ask ⟨subcommand, prints, arguments, rfl⟩ fun _ => .done _

end Reads

namespace SeesAlike

theorem holds_eq (alike : session.SeesAlike left right) :
    session.storage.holds left = session.storage.holds right := by
  funext entry
  exact FileTree.isFile_of_readText (alike.memories entry)

theorem resolve?_eq (alike : session.SeesAlike left right) (reference : String) :
    session.storage.resolve? left reference = session.storage.resolve? right reference := by
  rw [Storage.resolve?_eq, Storage.resolve?_eq, alike.holds_eq]

end SeesAlike

theorem reads_head : session.Reads session.head.run := by
  refine .inspecting fun left right alike => ?_
  rw [alike.head]

theorem reads_resolve? (reference : String) : session.Reads (session.resolve? reference).run :=
  .observing fun _ _ alike => alike.resolve?_eq reference

theorem reads_read (entry : MemoryEntry) : session.Reads (session.storage.read entry).run := by
  refine .inspecting fun left right alike => ?_
  rw [Storage.textOf, Storage.textOf, alike.memories]

theorem reads_log (depth : Depth) (options : List String) (path : String) :
    session.Reads (session.log depth options path).run := by
  refine reads_head.bind_task fun found => ?_
  cases found with
  | none => exact .done _
  | some identifier => exact (Reads.git (by decide) [0]).bind_task fun _ => .done _

theorem reads_execute (command : Command) (reads : command.operation.isMutating = false) :
    session.Reads (session.execute command).run := by
  cases command with
  | search query depth =>
      refine (Reads.git (by decide) [0, 1]).bind_task fun found => ?_
      exact (reads_log depth _ scope).bind_task fun commits => .done _
  | view reference =>
      refine (reads_resolve? reference).bind_task fun found => ?_
      cases found with
      | some entry => exact (reads_read entry).mapFailure.bind_task fun text => .done _
      | none =>
          refine (Reads.testing (rejectOptionLike reference)).bind_task fun _ => ?_
          exact (Reads.git (by decide) [0]).bind_task fun shown => .done _
  | history path depth =>
      refine (reads_resolve? path).bind_task fun entry => ?_
      exact (reads_log depth [] _).bind_task fun commits => .done _
  | diff older newer =>
      refine (Reads.testing (rejectOptionLike older)).bind_task fun _ => ?_
      refine (Reads.testing (rejectOptionLike newer)).bind_task fun _ => ?_
      exact (Reads.git (by decide) [0]).bind_task fun printed => .done _
  | list symbol =>
      refine Reads.observing fun left right alike => ?_
      rw [Storage.list_congr alike.holds_eq]
  | create symbol slug content => cases reads
  | update reference content => cases reads
  | delete reference => cases reads

/-- Worlds that look alike to a session that can start git in both or neither, with git at the same
line of one script. -/
structure FollowScript (session : Session) (script : Nat → Git.Completion) (left right : World) :
    Prop where
  git : left.git = Git.scripted script ∧ right.git = Git.scripted script
  line : left.exchanges.length = right.exchanges.length
  sees : session.SeesAlike left.files right.files
  starts : ∀ arguments, left.startFailure? (session.invocation arguments) =
    right.startFailure? (session.invocation arguments)

theorem FollowScript.start {script : Nat → Git.Completion} {left right : World}
    (related : session.FollowScript script left right) (arguments : List String) :
    (left.start (session.invocation arguments)).1 =
        (right.start (session.invocation arguments)).1 ∧
      session.FollowScript script (left.start (session.invocation arguments)).2
        (right.start (session.invocation arguments)).2 := by
  rcases related with ⟨⟨one, other⟩, line, sees, starts⟩
  have alike := starts arguments
  rcases startable : left.startFailure? (session.invocation arguments) with _ | failure
  · rw [World.start_of_none startable, World.start_of_none (alike ▸ startable)]
    refine ⟨?_, ⟨one, other⟩, congrArg (· + 1) line, ?_, ?_⟩
    · rw [one, other]
      simp only [Git.scripted, line]
      rfl
    · rw [World.exchanged, World.exchanged, one, other]
      exact sees
    · have unmoved : ∀ world : World, world.git = Git.scripted script → ∀ invocation,
          (world.exchanged (session.invocation arguments)).startFailure? invocation =
            world.startFailure? invocation := by
        intro world scripted invocation
        have files : (world.exchanged (session.invocation arguments)).files = world.files := by
          rw [World.exchanged, scripted]
          rfl
        exact World.startFailure?_congr files rfl invocation
      intro others
      rw [unmoved left one, unmoved right other, starts]
  · rw [World.start_of_some startable, World.start_of_some (alike ▸ startable)]
    exact ⟨rfl, ⟨one, other⟩, line, sees, starts⟩

/-- Whatever the answers of git are, one after the other. -/
theorem indistinct_followScript (script : Nat → Git.Completion) :
    session.Indistinct (session.FollowScript script) := by
  refine ⟨fun related => related.sees, ?_, ?_⟩
  · rintro left right _ related ⟨subcommand, -, arguments, rfl⟩
    exact (related.start (subcommand :: arguments)).1
  · rintro left right _ related ⟨subcommand, -, arguments, rfl⟩
    exact (related.start (subcommand :: arguments)).2

/-- Whether a place belongs to the lock and its directory, or to what paused operations leave. -/
def IsAside (session : Session) (place : Location) : Prop :=
  Path.location session.storage.privateDirectory <+: place ∨
    ∃ trace ∈ Git.State.traces, session.repository.store.own ++ [trace] <+: place

theorem IsAside.below {above place : Location} (aside : session.IsAside above)
    (below : above <+: place) : session.IsAside place := by
  rcases aside with isPrivate | ⟨trace, known, isTrace⟩
  · exact .inl (isPrivate.trans below)
  · exact .inr ⟨trace, known, isTrace.trans below⟩

/-- Who has the lock is not seen. -/
theorem seesAlike_of_hold? {tree held : FileTree} {holder : Holder}
    (taken : tree.hold? holder session.storage.lockPlace = some held) :
    session.SeesAlike tree held := by
  have same : tree.item? = held.item? := (FileTree.items_of_hold? taken).symm
  refine ⟨fun entry => FileTree.readText_congr (FileTree.sight_eq_of_items same _), ?_⟩
  rw [Git.Repository.head, Git.Repository.head, Git.ReferenceStore.head_congr same]

/-- The lock and the files of paused operations are not seen, as long as the memories are not kept
among them and the current commit is the same. -/
theorem seesAlike_of_aside (apart : ∀ entry, ¬session.IsAside (session.storage.place entry))
    (same : ∀ place, ¬session.IsAside place → left.item? place = right.item? place)
    (head : session.repository.head left = session.repository.head right) :
    session.SeesAlike left right := by
  refine ⟨fun entry => FileTree.readText_congr (FileTree.sight_congr ?_), head⟩
  intro above isAbove
  exact same above fun aside => apart entry (aside.below isAbove)

/-- A command that leaves the files to git, asks git only to print, and answers alike in worlds that
it cannot tell apart. -/
structure Observes (session : Session) (command : Command) : Prop where
  files : ∀ (holder : Holder) (world : World),
    world.LeftToGit ((session.execute command).perform holder world).2
  calls : ∀ (holder : Holder) (world : World),
    ∀ call ∈ (session.execute command).calls holder world,
      session.IsAmong Git.readingSubcommands call.invocation
  answer : ∀ alike, session.Indistinct alike →
    ∀ (one other : Holder) (left right : World), alike left right →
      ((session.execute command).perform one left).1 =
        ((session.execute command).perform other right).1

/-- Whether a command changes files itself or makes git change something. -/
def Alters (session : Session) (command : Command) (holder : Holder) (world : World) : Prop :=
  ¬world.LeftToGit ((session.execute command).perform holder world).2 ∨
    ∃ call ∈ (session.execute command).calls holder world,
      session.IsAmong Git.changingSubcommands call.invocation

theorem observes_of_reads {command : Command} (reads : command.operation.isMutating = false) :
    session.Observes command := by
  have steps : session.Reads (session.execute command).run := reads_execute command reads
  refine ⟨?_, ?_, ?_⟩
  · intro holder world
    rw [Task.perform]
    exact steps.leftToGit holder world
  · exact steps.issues
  · intro alike indistinct one other left right related
    rw [Task.perform, Task.perform]
    exact steps.result_eq indistinct one other related

theorem not_alters_of_observes {command : Command} (observes : session.Observes command)
    (holder : Holder) (world : World) : ¬session.Alters command holder world := by
  rintro (written | ⟨call, made, subcommand, changes, arguments, asked⟩)
  · exact written (observes.files holder world)
  · rcases observes.calls holder world call made with ⟨other, prints, others, askedToo⟩
    rw [asked] at askedToo
    have same := List.append_cancel_left (congrArg Git.Invocation.arguments askedToo)
    injection same with same
    subst same
    have apart : ∀ name ∈ Git.changingSubcommands, name ∉ Git.readingSubcommands := by decide
    exact apart subcommand changes prints

/-- Each operation that changes memories alters a repository with one memory. -/
theorem exists_alters {operation : Operation} (mutates : operation.isMutating = true) :
    ∃ command world, command.operation = operation ∧ plain.Alters command 0 world := by
  let world := World.plain [("memories", .directory [("insight", .directory
    [("x.md", .file (Text.encode "a") none)])])] Git.idle
  have alters : ∀ (command : Command) subcommand arguments,
      subcommand ∈ Git.changingSubcommands →
      ((plain.execute command).calls 0 world).any (fun call =>
        call.invocation = plain.invocation (subcommand :: arguments)) →
      plain.Alters command 0 world := by
    intro command subcommand arguments changes called
    rcases List.any_eq_true.mp called with ⟨call, made, asked⟩
    exact .inr ⟨call, made, subcommand, changes, arguments, of_decide_eq_true asked⟩
  cases operation with
  | create =>
      refine ⟨.create .insight ⟨"y", by decide⟩ "b", world, rfl, ?_⟩
      exact alters _ "add" ["--", "memories/insight/y.md"] (by decide) (by decide +kernel)
  | update =>
      refine ⟨.update "x" "b", world, rfl, ?_⟩
      exact alters _ "add" ["--", "memories/insight/x.md"] (by decide) (by decide +kernel)
  | delete =>
      refine ⟨.delete "x", world, rfl, ?_⟩
      exact alters _ "rm" ["-q", "--", "memories/insight/x.md"] (by decide) (by decide +kernel)
  | _ => cases mutates

/-- Commands that only read observe, whatever git answers and whoever has the lock; the operations
that are said to change something are those that can. -/
theorem reading_observes_and_mutating_alters :
    (∀ (session : Session) (command : Command), command.operation.isMutating = false →
      session.Observes command) ∧
    (∀ (session : Session) (script : Nat → Git.Completion),
      session.Indistinct (session.FollowScript script)) ∧
    (∀ (session : Session) (tree held : FileTree) (holder : Holder),
      tree.hold? holder session.storage.lockPlace = some held → session.SeesAlike tree held) ∧
    (∀ (session : Session) (left right : FileTree),
      (∀ entry, ¬session.IsAside (session.storage.place entry)) →
      (∀ place, ¬session.IsAside place → left.item? place = right.item? place) →
      session.repository.head left = session.repository.head right →
      session.SeesAlike left right) ∧
    ∀ operation : Operation, operation.isMutating = true ↔
      ∃ (session : Session) (command : Command) (holder : Holder) (world : World),
        command.operation = operation ∧ session.Alters command holder world := by
  refine ⟨?_, ?_, ?_, ?_, ?_⟩
  · intro session command
    exact observes_of_reads
  · intro session script
    exact indistinct_followScript script
  · intro session tree held holder
    exact seesAlike_of_hold?
  · intro session left right
    exact seesAlike_of_aside
  · intro operation
    constructor
    · intro mutates
      rcases exists_alters mutates with ⟨command, world, isOperation, alters⟩
      exact ⟨plain, command, 0, world, isOperation, alters⟩
    · rintro ⟨session, command, holder, world, rfl, alters⟩
      by_contra reads
      have observes : session.Observes command := observes_of_reads (by simpa using reads)
      exact not_alters_of_observes observes holder world alters

/-- A search is answered alike before a merge is paused and while one is and another process has
the lock. -/
theorem reading_observes_during_locked_merge :
    let script : Nat → Git.Completion := fun line =>
      if line = 0 then ⟨some 0, "memories/insight/x.md:1:a\n", ""⟩ else ⟨some 1, "", "b"⟩
    let command : Command := .search "a" .standard
    ∃ quiet merging held : FileTree,
      quiet.createFile ["r", ".git", "MERGE_HEAD"] = .ok merging ∧
      merging.hold? 7 plain.storage.lockPlace = some held ∧
      plain.repository.state quiet = .clean ∧ plain.repository.state held = .merge ∧
      command.operation.isMutating = false ∧
      ((plain.execute command).perform 0
        ((World.plain [] (Git.scripted script)).withFiles quiet)).1 =
      ((plain.execute command).perform 1
        ((World.plain [] (Git.scripted script)).withFiles held)).1 := by
  intro script command
  let start := World.plain [] (Git.scripted script)
  let quiet := ((start.files.put plain.storage.lockPlace .empty).toOption).getD default
  let merging := ((quiet.createFile ["r", ".git", "MERGE_HEAD"]).toOption).getD default
  let held := (merging.hold? 7 plain.storage.lockPlace).getD default
  have made : quiet.createFile ["r", ".git", "MERGE_HEAD"] = .ok merging := by
    apply Except.eq_ok_of_toOption
    have succeeds : (quiet.createFile ["r", ".git", "MERGE_HEAD"]).toOption.isSome := by
      decide +kernel
    exact (Option.getD_of_ne_none (Option.isSome_iff_ne_none.mp succeeds) default).symm
  have taken : merging.hold? 7 plain.storage.lockPlace = some held := by
    have succeeds : (merging.hold? 7 plain.storage.lockPlace).isSome := by decide +kernel
    exact (Option.getD_of_ne_none (Option.isSome_iff_ne_none.mp succeeds) default).symm
  refine ⟨quiet, merging, held, made, taken, by decide +kernel, by decide +kernel, rfl, ?_⟩
  rcases reading_observes_and_mutating_alters with ⟨observes, scripts, locks, merges, -⟩
  have apart : ∀ entry, ¬plain.IsAside (plain.storage.place entry) := by
    intro entry aside
    have root : plain.storage.root = ["r"] := by decide +kernel
    have lock : Path.location plain.storage.privateDirectory = ["r", ".git", "gitmem"] := by
      decide +kernel
    rw [IsAside, Storage.place_eq, root, lock] at aside
    simp [memoriesName, plain] at aside
  have sees : plain.SeesAlike quiet held := by
    have first : plain.SeesAlike quiet merging := by
      refine merges plain quiet merging apart ?_ (by decide +kernel)
      intro place outside
      rw [(FileTree.items_of_createFile made).2, Function.update_of_ne]
      rintro rfl
      exact outside (.inr ⟨"MERGE_HEAD", by decide, List.prefix_rfl⟩)
    have second : plain.SeesAlike merging held := locks plain merging held 7 taken
    exact ⟨fun entry => (first.memories entry).trans (second.memories entry),
      first.head.trans second.head⟩
  have starts : ∀ arguments, (start.withFiles quiet).startFailure? (plain.invocation arguments) =
      (start.withFiles held).startFailure? (plain.invocation arguments) := by
    have directories : (start.withFiles quiet).directoryFailure? "/r/" =
        (start.withFiles held).directoryFailure? "/r/" := by decide +kernel
    have programs : (start.withFiles quiet).programFailure? "/r/" "git" =
        (start.withFiles held).programFailure? "/r/" "git" := by decide +kernel
    have isGit : plain.config.git.program = "git" := by decide +kernel
    intro arguments
    have directory : (plain.invocation arguments).directory = "/r/" := rfl
    have program : (plain.invocation arguments).program = "git" := isGit
    rw [World.startFailure?, World.startFailure?, directory, program, directories, programs]
  exact (observes plain command rfl).answer _ (scripts plain script) 0 1 _ _
    ⟨⟨rfl, rfl⟩, rfl, sees, starts⟩

end Session

end MemoryKeeper

import MemoryKeeper.Proofs.Rollback

/-!
# Failed creations and updates

A command that creates or updates a memory and fails should leave every file of
the work tree as it was. It does so unless its draft betrays it. A write that
cannot be moved to its place leaves the draft behind, and a write that is
taken back has used up whatever file stood at the draft's place. These are the
only two ways, and both are told from the files that were found.
-/

namespace MemoryKeeper

open MemoryKeeper.Path (Location)

namespace Session

variable {session : Session} {holder : Holder} {world after : World} {command : Command}

/-- The places of the work tree: those below its directory, without git's own and the lock's. -/
def inWorkTree (session : Session) (place : Location) : Prop :=
  session.storage.root <+: place ∧
    ¬session.storage.root ++ [Git.Repository.entryName] <+: place ∧
    place ≠ session.storage.lockPlace

theorem inWorkTree_of_memories {place : Location} (rest : Location)
    (below : place = session.storage.root ++ memoriesName :: rest)
    (noLock : place ≠ session.storage.lockPlace) : session.inWorkTree place := by
  refine ⟨?_, ?_, noLock⟩
  · rw [below]
    exact List.prefix_append _ _
  · intro inGit
    rw [below, List.prefix_append_right_inj, List.cons_prefix_cons] at inGit
    exact absurd inGit.1 (by decide)

theorem shelters_inWorkTree (session : Session) :
    session.storage.Shelters session.inWorkTree := by
  refine ⟨?_, ?_, ?_⟩
  · intro entry
    refine inWorkTree_of_memories [entry.symbol.kind, entry.fileName] ?_
      (session.storage.place_ne_lockPlace entry)
    rw [Storage.place_eq]
    simp
  · intro entry
    refine inWorkTree_of_memories [entry.symbol.kind, entry.draftName] ?_
      (session.storage.draftPlace_ne_lockPlace entry)
    rw [Storage.draftPlace_eq]
    simp
  · intro inside
    exact inside.2.2 rfl

/-- Whether the draft of a command can do no harm if the command fails. Wherever the command gets
to open its draft, either nothing keeps the draft from being moved and no file stood at its place,
or it cannot be moved but the file that stood there holds the same text. -/
def DraftIsHarmless (session : Session) (holder : Holder) (world : World) (command : Command) :
    Prop :=
  ∀ locked entry text opened, session.enter? holder world = some locked →
    session.intended? locked.toView command = some (entry, text) →
    session.storage.openDraft? entry locked.files = some opened →
    (opened.isBlocked (session.storage.place entry) →
      world.files.fileAt? (session.storage.draftPlace entry) = some (Text.encode text)) ∧
    (¬opened.isBlocked (session.storage.place entry) →
      world.files.fileAt? (session.storage.draftPlace entry) = none)

theorem harmless_iff {locked : World} {files : FileTree} {entry : MemoryEntry}
    {text : String} (entered : session.enter? holder world = some locked)
    (intended : session.intended? locked.toView command = some (entry, text))
    (opens : session.storage.openDraft? entry locked.files = some files) :
    session.DraftIsHarmless holder world command ↔
      (files.isBlocked (session.storage.place entry) →
        world.files.fileAt? (session.storage.draftPlace entry) = some (Text.encode text)) ∧
      (¬files.isBlocked (session.storage.place entry) →
        world.files.fileAt? (session.storage.draftPlace entry) = none) := by
  constructor
  · intro harmless
    exact harmless locked entry text files entered intended opens
  · intro harmless lockedToo entryToo textToo filesToo enteredToo intendedToo opensToo
    rw [entered] at enteredToo
    cases enteredToo
    rw [intended] at intendedToo
    cases intendedToo
    rw [opens] at opensToo
    cases opensToo
    exact harmless

theorem harmless_of_closed {locked : World} {entry : MemoryEntry} {text : String}
    (entered : session.enter? holder world = some locked)
    (intended : session.intended? locked.toView command = some (entry, text))
    (closed : session.storage.openDraft? entry locked.files = none) :
    session.DraftIsHarmless holder world command := by
  intro lockedToo entryToo textToo files enteredToo intendedToo opens
  rw [entered] at enteredToo
  cases enteredToo
  rw [intended] at intendedToo
  cases intendedToo
  rw [closed] at opens
  cases opens

/-- A creation or an update that fails leaves all files of the work tree as they were exactly when
its draft is harmless. Only what the files show makes a step fail here: a full disk, which may
break off a draft anywhere, is among the interruptions of `Program.Passes`. -/
theorem files_kept_iff_of_failed {failure : ExecutionError}
    (writes : command.operation = .create ∨ command.operation = .update)
    (sparing : Git.Spares world.git (fun _ => True) session.inWorkTree)
    (failed : (session.execute command).perform holder world = (.error failure, after)) :
    (∀ place, session.inWorkTree place →
        after.files.fileAt? place = world.files.fileAt? place) ↔
      session.DraftIsHarmless holder world command := by
  have shelters := session.shelters_inWorkTree
  have passive : Git.Spares world.git session.isPassive session.inWorkTree :=
    sparing.mono fun _ _ => trivial
  rcases entered : session.enter? holder world with _ | locked
  · rcases perform_of_barred writes entered with ⟨refusal, later, performed, -, same⟩
    rw [failed] at performed
    cases performed
    constructor
    · intro _ locked entry text files enteredToo
      rw [entered] at enteredToo
      cases enteredToo
    · intro _ place inside
      exact same place inside.2.2
  · have start : ∀ place, session.inWorkTree place →
        locked.files.fileAt? place = world.files.fileAt? place := by
      intro place inside
      exact (enter?_spec entered).2 place inside.2.2
    rcases intended : session.intended? locked.toView command with _ | ⟨entry, text⟩
    · rcases fails_of_unintended writes shelters entered intended with
        ⟨refusal, later, performed, same⟩
      rw [failed] at performed
      cases performed
      constructor
      · intro _ lockedToo entry text files enteredToo intendedToo
        rw [entered] at enteredToo
        cases enteredToo
        rw [intended] at intendedToo
        cases intendedToo
      · intro _ place inside
        exact (same place inside).trans (start place inside)
    · have drafted := drafted_of_intended passive shelters entered intended
      rw [failed] at drafted
      have inside := shelters.drafts entry
      cases drafted with
      | refused closed files =>
          constructor
          · intro _
            exact harmless_of_closed entered intended closed
          · intro _ place within
            exact (files place within).trans (start place within)
      | stranded opens blocked files =>
          rw [harmless_iff entered intended opens, files.kept_iff inside start]
          constructor
          · intro kept
            constructor
            · intro _
              exact kept
            · intro free
              exact absurd blocked free
          · intro harmless
            exact harmless.1 blocked
      | undone opens free files =>
          rw [harmless_iff entered intended opens, files.kept_iff inside start]
          constructor
          · intro kept
            constructor
            · intro blocked
              exact absurd blocked free
            · intro _
              exact kept
          · intro harmless
            exact harmless.2 free
      | lost opens free present tooLong gone =>
          rw [harmless_iff entered intended opens]
          rw [start _ inside] at present
          constructor
          · intro kept
            rw [← kept _ inside] at present
            exact absurd gone present
          · intro harmless
            exact absurd (harmless.2 free) present

/-- A directory where the file of a new memory belongs keeps the draft from being moved, and the
draft stays. -/
theorem files_changed_of_blocked_creation :
    let command : Command := .create .insight ⟨"x", by decide⟩ "c"
    let world := World.plain
      [("memories", .directory [("insight", .directory [("x.md", .directory [])])])] Git.idle
    ∃ failure after, (plain.execute command).perform 0 world = (.error failure, after) ∧
      ¬(∀ place, plain.inWorkTree place →
        after.files.fileAt? place = world.files.fileAt? place) ∧
      ¬plain.DraftIsHarmless 0 world command := by
  intro command world
  have evaluated : ((plain.execute command).perform 0 world).1.toOption = none ∧
      ((plain.execute command).perform 0 world).2.files.fileAt?
          (plain.storage.draftPlace ⟨.insight, ⟨"x", by decide⟩⟩) ≠
        world.files.fileAt? (plain.storage.draftPlace ⟨.insight, ⟨"x", by decide⟩⟩) := by
    decide +kernel
  rcases evaluated with ⟨fails, left⟩
  rcases Except.exists_error_of_toOption fails with ⟨failure, failed⟩
  have changed : ¬∀ place, plain.inWorkTree place →
      ((plain.execute command).perform 0 world).2.files.fileAt? place =
        world.files.fileAt? place := by
    intro kept
    exact left (kept _ (plain.shelters_inWorkTree.drafts _))
  refine ⟨failure, _, Prod.ext failed rfl, changed, ?_⟩
  rw [← files_kept_iff_of_failed (Or.inl rfl) (Git.spares_idle _ _) (Prod.ext failed rfl)]
  exact changed

end Session

end MemoryKeeper

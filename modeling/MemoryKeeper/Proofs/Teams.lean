import MemoryKeeper.Proofs.Interleaving
import MemoryKeeper.Proofs.Working

/-!
# Processes that change one repository

Any number of processes create, update and delete memories of one repository at
the same time, each with its own configuration. What each of them does on its way
to the lock and behind it is read off its program: on the way it changes no
memory, behind the lock it changes the file of one memory only.

A step behind the lock is judged by what it leaves to the others: the lock is
still held by whoever held it, all other memories are as they were, and the
memory's own file does not vanish unless it is removed.
-/

namespace MemoryKeeper

open MemoryKeeper.Path (Location)

namespace Session

variable {session : Session}

/-- How a command ends that has the lock: it gives the lock back. -/
def leave (session : Session) (outcome : Except ExecutionError Outcome) :
    Program (Except ExecutionError Outcome) :=
  .release session.storage.lockPlace (.done outcome)

/-- A program on its way to the lock, and what it does once it has it. -/
inductive Approaches (session : Session) (inside : Program (Except ExecutionError Outcome)) :
    Program (Except ExecutionError Outcome) → Prop where
  | failed (failure : ExecutionError) : Approaches session inside (.done (.error failure))
  | look {next : View → Program (Except ExecutionError Outcome)}
      (onward : ∀ view, Approaches session inside (next view)) :
      Approaches session inside (.observe next)
  | prepare {next : Except OsError Unit → Program (Except ExecutionError Outcome)}
      (onward : ∀ answer, Approaches session inside (next answer)) :
      Approaches session inside
        (.change (.createDirectories (Path.location session.storage.privateDirectory)) next)
  | take {next : Except OsError Bool → Program (Except ExecutionError Outcome)}
      (refused : ∀ answer, answer ≠ .ok true → ∃ failure, next answer = .done (.error failure))
      (entered : next (.ok true) = inside) :
      Approaches session inside (.acquire session.storage.lockPlace next)

theorem approaches_exclusively (task : Task ExecutionError Outcome) :
    session.Approaches (task.run.bind session.leave) (session.exclusively task).run := by
  refine .look fun view => ?_
  dsimp only
  generalize session.repository.ensureClean view.files = clean
  rcases clean with failure | _
  · exact .failed (.git failure)
  · refine .prepare fun answer => ?_
    rcases answer with error | _
    · exact .failed _
    · refine .take ?_ rfl
      rintro (error | _ | _) noEntry
      · exact ⟨_, rfl⟩
      · exact ⟨_, rfl⟩
      · exact absurd rfl noEntry

theorem bind_leave_ne_done {program : Program (Except ExecutionError Outcome)}
    {outcome : Except ExecutionError Outcome} : program.bind session.leave ≠ .done outcome := by
  intro ended
  cases program <;> cases ended

end Session

namespace Deed

/-- Whether a deed is the attempt to take a lock, and the lock was refused. -/
def isRefusal : Deed → Bool
  | .acquired _ (.ok true) => false
  | .acquired _ _ => true
  | _ => false

/-- Whether a deed has nothing to do with locks. -/
def isPlain : Deed → Bool
  | .acquired .. => false
  | .released _ => false
  | _ => true

theorem isInside_cons {deed : Deed} {earlier : List Deed} (plain : deed.isPlain) :
    isInside (deed :: earlier) = isInside earlier := by
  cases deed with
  | acquired place answer => cases plain
  | released place => cases plain
  | _ => rfl

theorem isRefusal_of_isPlain {deed : Deed} (plain : deed.isPlain) : deed.isRefusal = false := by
  cases deed with
  | acquired place answer => cases plain
  | _ => rfl

end Deed

namespace Storage

/-- What a process does that is not let in: it looks around, makes the directory of the lock and
tries to take the lock. -/
def IsPreparatory (storage : Storage) : Deed → Prop
  | .observed => True
  | .changed edit _ => edit = .createDirectories (Path.location storage.privateDirectory)
  | .called .. => False
  | .acquired place answer => place = storage.lockPlace ∧ answer ≠ .ok true
  | .released _ => False

/-- Whether every slug has a file in one category at most. -/
def HasOneKind (storage : Storage) (tree : FileTree) : Prop :=
  ∀ slug left right, storage.holds tree ⟨left, slug⟩ → storage.holds tree ⟨right, slug⟩ →
    left = right

end Storage

/-- Processes that change one repository, each for itself. -/
structure Team where
  repository : Git.Repository
  config : Holder → Config
  command : Holder → Command
  mutates : ∀ holder, (command holder).operation ∈ [.create, .update, .delete]

namespace Team

/-- The session that a process runs in. -/
def session (team : Team) (holder : Holder) : Session :=
  ⟨team.repository, team.config holder⟩

/-- Where the memories of the repository are kept. -/
def storage (team : Team) : Storage :=
  ⟨team.repository.commonDirectory, team.repository.workDirectory⟩

@[simp]
theorem storage_session (team : Team) (holder : Holder) :
    (team.session holder).storage = team.storage :=
  rfl

/-- Git that the processes can leave their memories to: it removes and puts back the file that it is
told to, changes no other file of a memory, and keeps away from the lock. -/
structure Trusts (team : Team) (git : Git.Behavior) : Prop where
  passive : ∀ exchanges holder arguments found entry,
    (team.session holder).isPassive ((team.session holder).invocation arguments) →
    (git exchanges ((team.session holder).invocation arguments) found).files.fileAt?
      (team.storage.place entry) = found.fileAt? (team.storage.place entry)
  removal : ∀ exchanges holder entry found other, other ≠ entry →
    (git exchanges ((team.session holder).removal entry) found).files.fileAt?
      (team.storage.place other) = found.fileAt? (team.storage.place other)
  recovery : ∀ exchanges holder entry found other, other ≠ entry →
    (git exchanges ((team.session holder).recovery entry) found).files.fileAt?
      (team.storage.place other) = found.fileAt? (team.storage.place other)
  /-- Putting a file back does not remove it. -/
  recovered : ∀ exchanges holder entry found, team.storage.holds found entry →
    team.storage.holds (git exchanges ((team.session holder).recovery entry) found).files entry
  lock : ∀ exchanges holder arguments found taker, found.IsHeld taker team.storage.lockPlace →
    (git exchanges ((team.session holder).invocation arguments) found).files.IsHeld taker
      team.storage.lockPlace

/-- Whether git was not called to remove a memory with a slug between two worlds. -/
def SparesSlug (team : Team) (slug : Slug) (before after : World) : Prop :=
  ∃ made, after.exchanges = made ++ before.exchanges ∧ ∀ exchange ∈ made, ∀ holder entry,
    entry.slug = slug → exchange.invocation ≠ (team.session holder).removal entry

/-- Whether a process creates a memory with a slug. -/
def Creates (team : Team) (slug : Slug) (holder : Holder) : Prop :=
  ∃ symbol content, team.command holder = .create symbol slug content

variable {team : Team} {holder : Holder} {world before after : World} {entry : MemoryEntry}
  {discards : Prop} {known later : Bool} {deed : Deed}
  {program rest : Program (Except ExecutionError Outcome)}
  {goal : Bool → Except ExecutionError Outcome → Prop}

/-- A slug that is spared from a world to a later one is spared in both parts of the way. -/
theorem SparesSlug.split {slug : Slug} {start middle last : World}
    (spared : team.SparesSlug slug start last) (first : start.exchanges <:+ middle.exchanges)
    (second : middle.exchanges <:+ last.exchanges) :
    team.SparesSlug slug start middle ∧ team.SparesSlug slug middle last := by
  rcases spared with ⟨made, exchanges, spares⟩
  rcases first with ⟨early, isEarly⟩
  rcases second with ⟨late, isLate⟩
  have whole : made ++ start.exchanges = (late ++ early) ++ start.exchanges := by
    rw [← exchanges, ← isLate, ← isEarly, List.append_assoc]
  have parts : made = late ++ early := List.append_cancel_right whole
  constructor
  · refine ⟨early, isEarly.symm, fun exchange isMade => spares exchange ?_⟩
    rw [parts]
    exact List.mem_append_right late isMade
  · refine ⟨late, isLate.symm, fun exchange isMade => spares exchange ?_⟩
    rw [parts]
    exact List.mem_append_left early isMade

theorem holds_congr {left right : FileTree}
    (same : left.fileAt? (team.storage.place entry) = right.fileAt? (team.storage.place entry)) :
    team.storage.holds left entry = team.storage.holds right entry := by
  rw [Storage.holds_eq, Storage.holds_eq, same]

/-- What a step does that is part of the work on one memory. -/
structure Worked (team : Team) (entry : MemoryEntry) (discards : Prop) (before after : World)
    (known later : Bool) (deed : Deed) : Prop where
  plain : deed.isPlain
  lock : ∀ taker, before.files.IsHeld taker team.storage.lockPlace →
    after.files.IsHeld taker team.storage.lockPlace
  others : ∀ other, other ≠ entry →
    after.files.fileAt? (team.storage.place other) =
      before.files.fileAt? (team.storage.place other)
  there : (known → team.storage.holds before.files entry) →
    later → team.storage.holds after.files entry
  kept : ¬discards → team.SparesSlug entry.slug before after →
    team.storage.holds before.files entry → team.storage.holds after.files entry

/-- A step that changes no memory's file. -/
theorem worked_of_same (plain : deed.isPlain)
    (lock : ∀ taker, before.files.IsHeld taker team.storage.lockPlace →
      after.files.IsHeld taker team.storage.lockPlace)
    (same : ∀ other, after.files.fileAt? (team.storage.place other) =
      before.files.fileAt? (team.storage.place other)) :
    team.Worked entry discards before after known known deed where
  plain := plain
  lock := lock
  others := fun other _ => same other
  there := fun present isKnown => (holds_congr (same entry)).symm ▸ present isKnown
  kept := fun _ _ present => (holds_congr (same entry)).symm ▸ present

theorem worked_of_call {arguments : List String}
    (trusts : team.Trusts world.git)
    (passive : (team.session holder).isPassive ((team.session holder).invocation arguments)) :
    team.Worked entry discards world (world.start ((team.session holder).invocation arguments)).2
      known known (.called ((team.session holder).invocation arguments)
        (world.start ((team.session holder).invocation arguments)).1) := by
  apply worked_of_same rfl
  · intro taker held
    rcases World.start_cases ((team.session holder).invocation arguments) world with same | called
    · rw [same]
      exact held
    · rw [called]
      exact trusts.lock _ _ _ _ _ held
  · intro other
    rcases World.start_cases ((team.session holder).invocation arguments) world with same | called
    · rw [same]
    · rw [called]
      exact trusts.passive _ _ _ _ _ passive

theorem worked_of_remove (trusts : team.Trusts world.git) :
    team.Worked entry discards world (world.start ((team.session holder).removal entry)).2
      known false (.called ((team.session holder).removal entry)
        (world.start ((team.session holder).removal entry)).1) := by
  rcases World.start_cases ((team.session holder).removal entry) world with same | called
  · rw [same]
    refine ⟨rfl, fun _ held => held, fun _ _ => rfl, ?_, fun _ _ present => present⟩
    intro _ never
    cases never
  · rw [called]
    refine ⟨rfl, fun _ held => trusts.lock _ _ _ _ _ held,
      fun other apart => trusts.removal _ _ _ _ _ apart, ?_, ?_⟩
    · intro _ never
      cases never
    · rintro _ ⟨made, exchanges, spared⟩ _
      have only : [⟨(team.session holder).removal entry, world.files, _⟩] = made :=
        List.append_cancel_right exchanges
      exact absurd rfl (spared _ (only ▸ List.mem_cons_self) holder entry rfl)

theorem worked_of_recover (trusts : team.Trusts world.git) :
    team.Worked entry discards world (world.start ((team.session holder).recovery entry)).2
      known known (.called ((team.session holder).recovery entry)
        (world.start ((team.session holder).recovery entry)).1) := by
  rcases World.start_cases ((team.session holder).recovery entry) world with same | called
  · rw [same]
    exact worked_of_same rfl (fun _ held => held) fun _ => rfl
  · rw [called]
    exact ⟨rfl, fun _ held => trusts.lock _ _ _ _ _ held,
      fun other apart => trusts.recovery _ _ _ _ _ apart,
      fun present isKnown => trusts.recovered _ _ _ _ (present isKnown),
      fun _ _ present => trusts.recovered _ _ _ _ present⟩

/-- A change of the memory's own file. -/
theorem lock_and_others_of_change {edit : Edit} (world : World)
    (places : ∀ place ∈ edit.places,
      place = team.storage.place entry ∨ place = team.storage.draftPlace entry) :
    (∀ taker, world.files.IsHeld taker team.storage.lockPlace →
      (world.change edit).2.files.IsHeld taker team.storage.lockPlace) ∧
    ∀ other, other ≠ entry → (world.change edit).2.files.fileAt? (team.storage.place other) =
      world.files.fileAt? (team.storage.place other) := by
  constructor
  · intro taker held
    refine World.isHeld_change ?_ held
    intro touched
    rcases places _ touched with isPlace | isDraft
    · exact team.storage.place_ne_lockPlace entry isPlace.symm
    · exact team.storage.draftPlace_ne_lockPlace entry isDraft.symm
  · intro other apart
    apply World.fileAt?_change
    intro touched
    rcases places _ touched with isPlace | isDraft
    · exact apart (Storage.place_injective team.storage isPlace)
    · exact team.storage.place_ne_draftPlace other entry isDraft

theorem worked_of_discard (allowed : discards) :
    team.Worked entry discards world
      (world.change (.removeFile (team.storage.place entry))).2 known false
      (.changed (.removeFile (team.storage.place entry))
        (world.change (.removeFile (team.storage.place entry))).1) := by
  have places : ∀ place ∈ (Edit.removeFile (team.storage.place entry)).places,
      place = team.storage.place entry ∨ place = team.storage.draftPlace entry := by
    simp [Edit.places]
  have frame := lock_and_others_of_change world places
  refine ⟨rfl, frame.1, frame.2, ?_, fun disallowed => absurd allowed disallowed⟩
  intro _ never
  cases never

/-- The memory's file is there once it was moved to its place. -/
theorem worked_of_moved {answer : Except OsError Unit}
    (moved : world.change (.rename (team.storage.draftPlace entry) (team.storage.place entry)) =
      (.ok (), after)) :
    team.Worked entry discards world after known true (.changed
      (.rename (team.storage.draftPlace entry) (team.storage.place entry)) answer) := by
  have places : ∀ place ∈ (Edit.rename (team.storage.draftPlace entry)
      (team.storage.place entry)).places,
      place = team.storage.place entry ∨ place = team.storage.draftPlace entry := by
    simp [Edit.places, or_comm]
  have frame := lock_and_others_of_change world places
  have present : team.storage.holds after.files entry := by
    rcases World.apply_of_change moved with ⟨files, made, rfl⟩
    rcases FileTree.items_of_rename made with ⟨content, -, -, -, items⟩
    rw [Storage.holds_eq, World.withFiles_files, FileTree.fileAt?_of_move items,
      Function.update_self]
    rfl
  rw [moved] at frame
  exact ⟨rfl, frame.1, frame.2, fun _ _ => present, fun _ _ _ => present⟩

theorem worked_of_works (trusts : team.Trusts world.git)
    (works : (team.session holder).Works entry discards goal known program)
    (made : (program.bind (team.session holder).leave).step? holder world =
      some (deed, rest, after)) :
    (∃ outcome, program = .done outcome ∧ goal known outcome) ∨
      ∃ next later, rest = next.bind (team.session holder).leave ∧
        (team.session holder).Works entry discards goal later next ∧
        team.Worked entry discards world after known later deed := by
  cases works with
  | done reached => exact .inl ⟨_, rfl, reached⟩
  | observe onward =>
      cases made
      exact .inr ⟨_, known, rfl, onward _, worked_of_same rfl (fun _ held => held) fun _ => rfl⟩
  | prepare aside noLock onward =>
      cases made
      refine .inr ⟨_, known, rfl, onward _, worked_of_same rfl ?_ ?_⟩
      · intro taker held
        exact World.isHeld_change noLock held
      · intro other
        exact World.fileAt?_change (aside other)
  | move refused moved =>
      cases made
      rcases changed : world.change (.rename ((team.session holder).storage.draftPlace entry)
        ((team.session holder).storage.place entry)) with ⟨failure | _, next⟩
      · right
        refine ⟨_, known, rfl, refused failure, ?_⟩
        rw [World.eq_of_change changed]
        exact worked_of_same rfl (fun _ held => held) fun _ => rfl
      · exact .inr ⟨_, true, rfl, moved, worked_of_moved changed⟩
  | discard allowed onward =>
      cases made
      exact .inr ⟨_, false, rfl, onward _, worked_of_discard allowed⟩
  | call passive onward =>
      cases made
      exact .inr ⟨_, known, rfl, onward _, worked_of_call trusts passive⟩
  | remove onward =>
      cases made
      exact .inr ⟨_, false, rfl, onward _, worked_of_remove trusts⟩
  | recover onward =>
      cases made
      exact .inr ⟨_, known, rfl, onward _, worked_of_recover trusts⟩

end Team

end MemoryKeeper

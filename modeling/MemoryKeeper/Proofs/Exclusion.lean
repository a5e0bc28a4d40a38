import MemoryKeeper.Proofs.Phases

/-!
# One process at a time

The lock lets one process in at a time, whichever steps the others make in
between. The phases of all processes together with the files form an invariant of
every turn: since whoever is inside holds the file of the lock, no two are inside,
and since only the memory that is worked on changes, every slug stays with one
category.

Who has created a memory leaves its slug taken, until a memory with that slug is
removed. So nobody who looks the slug up later creates it again.
-/

namespace MemoryKeeper

namespace Team

/-- All processes before their first step. -/
def opening (team : Team) (world : World) : Scene (Except ExecutionError Outcome) where
  world := world
  programs := fun holder => ((team.session holder).execute (team.command holder)).run
  deeds := fun _ => []

/-- Whether some turns lead from before the first step to a scene. -/
def Reaches (team : Team) (world : World) (scene : Scene (Except ExecutionError Outcome)) : Prop :=
  ∃ turns, (team.opening world).play turns = scene

variable {team : Team} {holder : Holder} {world after : World} {phase next : Phase} {deed : Deed}
  {rest : Program (Except ExecutionError Outcome)}

/-- What holds of all processes at every moment. -/
structure Orderly (team : Team) (scene : Scene (Except ExecutionError Outcome))
    (phases : Holder → Phase) : Prop where
  stages : ∀ holder, team.Stage holder scene.world.files (phases holder) (scene.programs holder)
    (scene.deeds holder)
  unique : team.storage.HasOneKind scene.world.files
  trusts : team.Trusts scene.world.git

namespace Orderly

variable {scene : Scene (Except ExecutionError Outcome)} {phases : Holder → Phase} {turn : Turn}
  {one other : Holder}

/-- At most one process is behind the lock. -/
theorem sole (orderly : team.Orderly scene phases) (inOne : (phases one).isWithin = true)
    (inOther : (phases other).isWithin = true) : one = other :=
  ((orderly.stages one).isHeld inOne).unique ((orderly.stages other).isHeld inOther)

theorem advance (orderly : team.Orderly scene phases)
    (made : (scene.programs turn.holder).step? turn.holder (scene.worldAt turn.time) =
      some (deed, rest, after)) :
    ∃ next, team.Orderly (scene.advance turn) (Function.update phases turn.holder next) ∧
      team.Advanced turn.holder (scene.worldAt turn.time) after (phases turn.holder) next rest := by
  have before : team.Stage turn.holder (scene.worldAt turn.time).files (phases turn.holder)
      (scene.programs turn.holder) (scene.deeds turn.holder) := orderly.stages turn.holder
  rcases before.step orderly.unique orderly.trusts made with ⟨next, stage, advanced⟩
  refine ⟨next, ?_, advanced⟩
  rw [Scene.advance_of_step? made]
  refine ⟨?_, hasOneKind_of_advanced before orderly.unique advanced, ?_⟩
  · intro holder
    by_cases moved : holder = turn.holder
    · subst moved
      simpa using stage
    · simp only [Function.update_of_ne moved]
      -- Whoever is inside has the lock, so the one who moved is outside and changed no memory.
      refine (orderly.stages holder).congr fun within => ?_
      have outside : (phases turn.holder).isWithin = false := by
        by_contra inside
        exact moved (orderly.sole within (by simpa using inside))
      refine ⟨(advanced.lock outside holder ((orderly.stages holder).isHeld within)).1, ?_⟩
      intro entry
      apply holds_congr
      apply advanced.others
      rw [Phase.subject?_of_outside outside]
      intro never
      cases never
  · have same := Program.git_step? made
    exact same ▸ orderly.trusts

/-- Before its first step every process is on its way to the lock. -/
theorem begins (trusts : team.Trusts world.git) (unique : team.storage.HasOneKind world.files) :
    team.Orderly (team.opening world) fun _ => .approaching := by
  refine ⟨?_, unique, trusts⟩
  intro holder
  rcases @Session.exists_looksUp (team.session holder) _ (team.mutates holder) with
    ⟨task, executed, looks⟩
  have approaches : (team.session holder).Approaches
      (task.run.bind (team.session holder).leave) ((team.session holder).exclusively task).run :=
    Session.approaches_exclusively task
  rw [← executed] at approaches
  exact .approaching approaches looks fun deed done => absurd done List.not_mem_nil

/-- It holds after every turn, whoever had it. -/
theorem play (orderly : team.Orderly scene phases) (turns : List Turn) :
    ∃ later, team.Orderly (scene.play turns) later := by
  induction turns generalizing scene phases with
  | nil => exact ⟨phases, orderly⟩
  | cons turn turns ih =>
      rcases made : (scene.programs turn.holder).step? turn.holder (scene.worldAt turn.time) with
        _ | ⟨deed, rest, after⟩
      · have still : team.Orderly (scene.advance turn) phases := by
          rw [Scene.advance_of_ended made]
          exact orderly
        exact ih still
      · rcases orderly.advance made with ⟨next, later, -⟩
        exact ih later

end Orderly

/-- Whether a process has created a slug since a scene in which it had not ended. -/
def HasCreated (team : Team) (slug : Slug) (start scene : Scene (Except ExecutionError Outcome))
    (holder : Holder) : Prop :=
  team.Creates slug holder ∧ (start.programs holder).result? = none ∧
    ∃ outcome, scene.programs holder = .done (.ok outcome)

/-- What holds since a scene as long as no memory with a slug is removed: one process at most has
created it, and then the slug is taken and nobody is about to create it. -/
structure Claimed (team : Team) (slug : Slug) (start scene : Scene (Except ExecutionError Outcome))
    (phases : Holder → Phase) : Prop where
  sole : ∀ one other, team.HasCreated slug start scene one →
    team.HasCreated slug start scene other → one = other
  taken : ∀ holder, team.HasCreated slug start scene holder →
    ∃ symbol, team.storage.holds scene.world.files ⟨symbol, slug⟩
  idle : ∀ holder, team.HasCreated slug start scene holder → ∀ other entry known,
    team.Creates slug other → phases other ≠ .working entry known

namespace Claimed

variable {slug : Slug} {start scene : Scene (Except ExecutionError Outcome)}
  {phases : Holder → Phase} {turn : Turn}

theorem begins (start : Scene (Except ExecutionError Outcome)) (phases : Holder → Phase) :
    team.Claimed slug start start phases := by
  have nobody : ∀ holder, ¬team.HasCreated slug start start holder := by
    rintro holder ⟨-, running, outcome, ended⟩
    rw [ended] at running
    cases running
  constructor
  · intro one other created
    exact absurd created (nobody one)
  · intro holder created
    exact absurd created (nobody holder)
  · intro holder created
    exact absurd created (nobody holder)

/-- The slug stays taken whoever acts. -/
theorem taken_advance (claimed : team.Claimed slug start scene phases)
    (advanced : team.Advanced turn.holder (scene.worldAt turn.time) after (phases turn.holder) next
      rest)
    (stage : team.Stage turn.holder scene.world.files (phases turn.holder)
      (scene.programs turn.holder) (scene.deeds turn.holder))
    (spared : team.SparesSlug slug (scene.worldAt turn.time) after)
    (created : team.HasCreated slug start scene holder) :
    ∃ symbol, team.storage.holds after.files ⟨symbol, slug⟩ := by
  rcases claimed.taken holder created with ⟨symbol, present⟩
  refine ⟨symbol, ?_⟩
  by_cases subject : (phases turn.holder).subject? = some ⟨symbol, slug⟩
  · rcases Phase.eq_working_of_subject? subject with ⟨known, working⟩
    have revises : ¬team.Discards turn.holder := by
      intro discards
      exact claimed.idle holder created turn.holder _ known (stage.creates subject discards) working
    exact advanced.kept _ known working revises spared present
  · exact (holds_congr (advanced.others _ subject)).symm ▸ present

theorem advance (orderly : team.Orderly scene phases)
    (claimed : team.Claimed slug start scene phases)
    (made : (scene.programs turn.holder).step? turn.holder (scene.worldAt turn.time) =
      some (deed, rest, after))
    (later : team.Orderly (scene.advance turn) (Function.update phases turn.holder next))
    (advanced : team.Advanced turn.holder (scene.worldAt turn.time) after (phases turn.holder) next
      rest)
    (spared : team.SparesSlug slug (scene.worldAt turn.time) after) :
    team.Claimed slug start (scene.advance turn) (Function.update phases turn.holder next) := by
  have programs := Scene.programs_advance made
  have world := Scene.world_advance made
  have earlier : ∀ holder, holder ≠ turn.holder →
      team.HasCreated slug start (scene.advance turn) holder →
      team.HasCreated slug start scene holder := by
    rintro holder apart ⟨creates, late, outcome, ended⟩
    rw [programs, Function.update_of_ne apart] at ended
    exact ⟨creates, late, outcome, ended⟩
  by_cases wins : team.HasCreated slug start (scene.advance turn) turn.holder
  · -- Who has just succeeded was working on the memory, so nobody had created it before.
    rcases wins with ⟨⟨symbol, content, creates⟩, late, outcome, ended⟩
    rw [programs, Function.update_self] at ended
    rcases advanced.succeeded outcome symbol slug content ended creates with
      ⟨⟨known, working⟩, present⟩
    have only : ∀ holder, team.HasCreated slug start (scene.advance turn) holder →
        holder = turn.holder := by
      intro holder created
      by_contra apart
      exact claimed.idle holder (earlier holder apart created) turn.holder _ known
        ⟨symbol, content, creates⟩ working
    refine ⟨?_, ?_, ?_⟩
    · intro one other createdOne createdOther
      rw [only one createdOne, only other createdOther]
    · intro holder _
      exact ⟨symbol, world.symm ▸ present⟩
    · intro holder _ other entry isKnown _ workingToo
      by_cases acts : other = turn.holder
      · subst acts
        have stage := later.stages turn.holder
        rw [workingToo, programs, Function.update_self] at stage
        exact stage.ne_done _ ended
      · rw [Function.update_of_ne acts] at workingToo
        exact acts (orderly.sole (by rw [workingToo]; rfl) (by rw [working]; rfl))
  · have before : ∀ holder, team.HasCreated slug start (scene.advance turn) holder →
        team.HasCreated slug start scene holder := by
      intro holder created
      refine earlier holder ?_ created
      rintro rfl
      exact wins created
    refine ⟨?_, ?_, ?_⟩
    · intro one other createdOne createdOther
      exact claimed.sole one other (before one createdOne) (before other createdOther)
    · intro holder created
      rw [world]
      exact claimed.taken_advance advanced (orderly.stages turn.holder) spared
        (before holder created)
    · intro holder created other entry isKnown creates working
      by_cases acts : other = turn.holder
      · subst acts
        rw [Function.update_self] at working
        -- The slug is taken, so it cannot just have been found free.
        rcases advanced.found entry isKnown working with ⟨known, already⟩ | found
        · exact claimed.idle holder (before holder created) turn.holder entry known creates already
        · rcases creates with ⟨symbol, content, creates⟩
          rw [creates] at found
          rcases claimed.taken holder (before holder created) with ⟨kind, present⟩
          have absent : scene.world.files.fileAt? (team.storage.place ⟨kind, slug⟩) = none :=
            Storage.fileAt?_of_find? found.2 kind
          rw [Storage.holds_eq, absent] at present
          cases present
      · rw [Function.update_of_ne acts] at working
        exact claimed.idle holder (before holder created) other entry isKnown creates working

/-- As long as no memory with the slug is removed, it holds after every turn. -/
theorem play (orderly : team.Orderly scene phases) (claimed : team.Claimed slug start scene phases)
    (turns : List Turn) (spared : team.SparesSlug slug scene.world (scene.play turns).world) :
    ∃ later, team.Claimed slug start (scene.play turns) later := by
  induction turns generalizing scene phases with
  | nil => exact ⟨phases, claimed⟩
  | cons turn turns ih =>
      rcases spared.split (Scene.exchanges_advance scene turn)
        (Scene.exchanges_play (scene.advance turn) turns) with ⟨first, second⟩
      rcases made : (scene.programs turn.holder).step? turn.holder (scene.worldAt turn.time) with
        _ | ⟨deed, rest, after⟩
      · have still : scene.advance turn = scene := Scene.advance_of_ended made
        rw [← still] at orderly claimed
        exact ih orderly claimed second
      · rcases orderly.advance made with ⟨next, later, advanced⟩
        rw [Scene.world_advance made] at first
        exact ih later (claimed.advance orderly made later advanced first) second

end Claimed

/-- However the steps of the processes follow one another, one of them at most is behind the lock,
who was refused the lock did nothing but try, every slug has one category at most, and of those that
create a memory with one slug only one succeeds unless such a memory was removed in between. -/
theorem exclusive_and_unique {scene : Scene (Except ExecutionError Outcome)}
    (trusts : team.Trusts world.git) (unique : team.storage.HasOneKind world.files)
    (reached : team.Reaches world scene) :
    (∀ one other, isInside (scene.deeds one) → isInside (scene.deeds other) → one = other) ∧
      (∀ holder, (∃ deed ∈ scene.deeds holder, deed.isRefusal) →
        ∀ deed ∈ scene.deeds holder, team.storage.IsPreparatory deed) ∧
      team.storage.HasOneKind scene.world.files ∧
      ∀ turns slug, team.SparesSlug slug scene.world (scene.play turns).world →
        ∀ one other, team.HasCreated slug scene (scene.play turns) one →
          team.HasCreated slug scene (scene.play turns) other → one = other := by
  rcases reached with ⟨turns, rfl⟩
  rcases (Orderly.begins trusts unique).play turns with ⟨phases, orderly⟩
  refine ⟨?_, ?_, orderly.unique, ?_⟩
  · intro one other inOne inOther
    apply orderly.sole
    · rw [← (orderly.stages one).isInside_eq]
      exact inOne
    · rw [← (orderly.stages other).isInside_eq]
      exact inOther
  · intro holder refused
    exact (orderly.stages holder).isPreparatory_of_refused refused
  · intro turns slug spared
    rcases Claimed.play orderly (Claimed.begins _ phases) turns spared with ⟨_, claimed⟩
    exact claimed.sole

/-- Processes that all create a memory with one slug, the first of them in another category. -/
def rivals (slug : Slug) : Team where
  repository := Session.plain.repository
  config := fun _ => Session.plain.config
  command := fun holder => .create (if holder = 0 then .insight else .pattern) slug "c"
  mutates := fun _ => List.mem_cons_self

theorem trusts_idle (team : Team) : team.Trusts Git.idle where
  passive := fun _ _ _ _ _ _ => rfl
  removal := fun _ _ _ _ _ _ => rfl
  recovery := fun _ _ _ _ _ _ => rfl
  recovered := fun _ _ _ _ present => present
  lock := fun _ _ _ _ _ held => held

/-- Of three processes that create one slug one is refused the lock while the first has it, and one
comes after the first has given the lock back and finds the slug taken. -/
theorem exclusive_and_unique_of_rivals :
    let slug : Slug := ⟨"x", by decide⟩
    let team := rivals slug
    ∃ scene turns, team.Reaches (World.plain [] Git.idle) scene ∧
      (isInside (scene.deeds 0) ∧ ∀ other, isInside (scene.deeds other) → other = 0) ∧
      (scene.deeds 1 ≠ [] ∧ ∀ deed ∈ scene.deeds 1, team.storage.IsPreparatory deed) ∧
      team.storage.HasOneKind scene.world.files ∧
      ((scene.play turns).programs 2).result?.isSome ∧
      team.HasCreated slug scene (scene.play turns) 0 ∧
      ∀ other, team.HasCreated slug scene (scene.play turns) other → other = 0 := by
  intro slug team
  have unique : team.storage.HasOneKind (World.plain [] Git.idle).files := by
    intro other left right present
    have root : team.storage.root = ["r"] := by decide +kernel
    rw [Storage.holds_eq, Storage.place_eq, root] at present
    cases present
  have evaluated : ∃ scene turns, team.Reaches (World.plain [] Git.idle) scene ∧
      (isInside (scene.deeds 0) ∧ (scene.deeds 1).any Deed.isRefusal ∧
        (scene.programs 0).result?.isNone) ∧
      ((scene.play turns).programs 0).result?.any (·.toOption.isSome) ∧
      ((scene.play turns).programs 2).result?.isSome ∧
      (scene.play turns).world.exchanges.all fun exchange =>
        !exchange.invocation.arguments.contains "rm" := by
    refine ⟨_, (List.replicate 10 0 ++ List.replicate 5 2).map (Turn.mk .epoch),
      ⟨[0, 0, 0, 1, 1, 1].map (Turn.mk .epoch), rfl⟩, ?_⟩
    decide +kernel
  rcases evaluated with
    ⟨scene, turns, reached, ⟨inside, refused, running⟩, succeeds, ends, spares⟩
  rcases exclusive_and_unique (trusts_idle _) unique reached with ⟨sole, barred, kinds, winners⟩
  have spared : team.SparesSlug slug scene.world (scene.play turns).world := by
    rcases Scene.exchanges_play scene turns with ⟨made, exchanges⟩
    refine ⟨made, exchanges.symm, ?_⟩
    intro exchange isMade holder entry _ same
    rw [List.all_eq_true, ← exchanges] at spares
    have noRemoval := spares exchange (List.mem_append_left _ isMade)
    rw [same] at noRemoval
    simp [Session.removal, Session.invocation, Git.Settings.invocation] at noRemoval
  have created : team.HasCreated slug scene (scene.play turns) 0 := by
    rw [Option.any_eq_true] at succeeds
    rcases succeeds with ⟨failure | outcome, ended, succeeded⟩
    · cases succeeded
    · exact ⟨⟨_, _, rfl⟩, Option.isNone_iff_eq_none.mp running, outcome,
        Program.eq_done_of_result? ended⟩
  rw [List.any_eq_true] at refused
  refine ⟨scene, turns, reached, ⟨inside, fun other isIn => sole other 0 isIn inside⟩, ?_, kinds,
    ends, created, ?_⟩
  · refine ⟨?_, barred 1 refused⟩
    rcases refused with ⟨deed, done, _⟩
    exact List.ne_nil_of_mem done
  · intro other createdToo
    exact winners turns slug spared other 0 createdToo created

end Team

end MemoryKeeper

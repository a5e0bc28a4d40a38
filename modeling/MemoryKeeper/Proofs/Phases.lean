import MemoryKeeper.Proofs.Teams

/-!
# The phases of a process

A process approaches the lock and is barred or let in; then it looks up a memory,
works on that one, and gives the lock back. In each phase something else is true
of the files, of what is left of its program, and of what it has done.

The lock is taken before anything is looked up. So a memory that is worked on was
looked up by the process that has the lock, and what was found about other
categories stays true as long as nobody else works on a memory.
-/

namespace MemoryKeeper

namespace Team

variable {team : Team} {holder : Holder} {world before after : World} {entry : MemoryEntry}
  {discards : Prop} {known later : Bool} {deed : Deed}
  {program rest : Program (Except ExecutionError Outcome)}
  {goal : Bool → Except ExecutionError Outcome → Prop}

/-- How far a process has come. -/
inductive Phase where
  | approaching
  /-- The lock was refused. -/
  | barred
  | looking
  /-- A memory is worked on, whose file is known to be there or not. -/
  | working (entry : MemoryEntry) (known : Bool)
  /-- Nothing was found to work on. -/
  | leaving
  | ended

namespace Phase

def isWithin : Phase → Bool
  | .looking => true
  | .working .. => true
  | .leaving => true
  | _ => false

/-- The memory that is worked on. -/
def subject? : Phase → Option MemoryEntry
  | .working entry _ => some entry
  | _ => none

theorem subject?_of_outside {phase : Phase} (outside : phase.isWithin = false) :
    phase.subject? = none := by
  cases phase with
  | working entry known => cases outside
  | _ => rfl

theorem eq_working_of_subject? {phase : Phase} {entry : MemoryEntry}
    (subject : phase.subject? = some entry) : ∃ known, phase = .working entry known := by
  cases phase with
  | working other known =>
      cases subject
      exact ⟨known, rfl⟩
  | _ => cases subject

end Phase

/-- Whether a process may discard what it wrote. -/
def Discards (team : Team) (holder : Holder) : Prop :=
  (team.command holder).operation = .create

/-- What is true of a process as long as it has the lock. -/
structure Entered (team : Team) (holder : Holder) (tree : FileTree) (deeds : List Deed) : Prop where
  held : tree.IsHeld holder team.storage.lockPlace
  inside : isInside deeds = true
  unrefused : ∀ deed ∈ deeds, deed.isRefusal = false

/-- What is true in each phase of a process: of the files, of what is left of its program, and of
what it has done. -/
inductive Stage (team : Team) (holder : Holder) (tree : FileTree) :
    Phase → Program (Except ExecutionError Outcome) → List Deed → Prop where
  | approaching {task : Task ExecutionError Outcome}
      {program : Program (Except ExecutionError Outcome)} {deeds : List Deed}
      (approaches : (team.session holder).Approaches
        (task.run.bind (team.session holder).leave) program)
      (looks : (team.session holder).LooksUp (team.Discards holder)
        ((team.session holder).Finds (team.command holder))
        (fun _ => Session.Completes (team.Discards holder)) task.run)
      (prepared : ∀ deed ∈ deeds, team.storage.IsPreparatory deed ∧ deed.isRefusal = false) :
      Stage team holder tree .approaching program deeds
  | barred {failure : ExecutionError} {deeds : List Deed}
      (prepared : ∀ deed ∈ deeds, team.storage.IsPreparatory deed) :
      Stage team holder tree .barred (.done (.error failure)) deeds
  | looking {program : Program (Except ExecutionError Outcome)} {deeds : List Deed}
      (entered : team.Entered holder tree deeds)
      (looks : (team.session holder).LooksUp (team.Discards holder)
        ((team.session holder).Finds (team.command holder))
        (fun _ => Session.Completes (team.Discards holder)) program) :
      Stage team holder tree .looking (program.bind (team.session holder).leave) deeds
  | working {program : Program (Except ExecutionError Outcome)} {deeds : List Deed}
      {entry : MemoryEntry} {known : Bool} (entered : team.Entered holder tree deeds)
      (works : (team.session holder).Works entry (team.Discards holder)
        (Session.Completes (team.Discards holder)) known program)
      (about : ∀ symbol slug content, team.command holder = .create symbol slug content →
        entry = ⟨symbol, slug⟩)
      (alone : ∀ symbol, team.storage.holds tree ⟨symbol, entry.slug⟩ → symbol = entry.symbol)
      (there : known → team.storage.holds tree entry) :
      Stage team holder tree (.working entry known) (program.bind (team.session holder).leave)
        deeds
  | leaving {failure : ExecutionError} {deeds : List Deed}
      (entered : team.Entered holder tree deeds) :
      Stage team holder tree .leaving ((team.session holder).leave (.error failure)) deeds
  | ended {outcome : Except ExecutionError Outcome} {deeds : List Deed}
      (outside : isInside deeds = false) (unrefused : ∀ deed ∈ deeds, deed.isRefusal = false) :
      Stage team holder tree .ended (.done outcome) deeds

/-- What a step of one process means for the others and for the memories. -/
structure Advanced (team : Team) (holder : Holder) (before after : World) (phase next : Phase)
    (rest : Program (Except ExecutionError Outcome)) : Prop where
  others : ∀ other, phase.subject? ≠ some other →
    after.files.fileAt? (team.storage.place other) =
      before.files.fileAt? (team.storage.place other)
  lock : phase.isWithin = false → ∀ taker, before.files.IsHeld taker team.storage.lockPlace →
    after.files.IsHeld taker team.storage.lockPlace ∧ next.isWithin = false
  kept : ∀ entry known, phase = .working entry known → ¬team.Discards holder →
    team.SparesSlug entry.slug before after →
    team.storage.holds before.files entry → team.storage.holds after.files entry
  found : ∀ entry known, next = .working entry known → (∃ known, phase = .working entry known) ∨
    (team.session holder).Finds (team.command holder) before.files entry
  succeeded : ∀ outcome symbol slug content, rest = .done (.ok outcome) →
    team.command holder = .create symbol slug content →
    (∃ known, phase = .working ⟨symbol, slug⟩ known) ∧
      team.storage.holds after.files ⟨symbol, slug⟩

variable {phase next : Phase} {deeds : List Deed} {tree : FileTree}

theorem isInside_of_preparatory (prepared : ∀ deed ∈ deeds, team.storage.IsPreparatory deed) :
    isInside deeds = false := by
  induction deeds with
  | nil => rfl
  | cons deed deeds ih =>
      rw [List.forall_mem_cons] at prepared
      have earlier := ih prepared.2
      cases deed with
      | acquired place answer =>
          rcases answer with error | _ | _
          · exact earlier
          · exact earlier
          · exact absurd rfl prepared.1.2
      | released place => cases prepared.1
      | _ => exact earlier

theorem Entered.step (entered : team.Entered holder world.files deeds) (plain : deed.isPlain)
    (held : after.files.IsHeld holder team.storage.lockPlace) :
    team.Entered holder after.files (deed :: deeds) where
  held := held
  inside := (Deed.isInside_cons plain).trans entered.inside
  unrefused := List.forall_mem_cons.mpr ⟨Deed.isRefusal_of_isPlain plain, entered.unrefused⟩

/-- Who gives the lock back has ended. -/
theorem Entered.left {place : Path.Location} {outcome : Except ExecutionError Outcome}
    {changed : FileTree} (entered : team.Entered holder tree deeds) :
    team.Stage holder changed .ended (.done outcome) (.released place :: deeds) :=
  .ended rfl (List.forall_mem_cons.mpr ⟨rfl, entered.unrefused⟩)

theorem fileAt?_release (holder : Holder) (entry : MemoryEntry) :
    (world.release holder team.storage.lockPlace).files.fileAt? (team.storage.place entry) =
      world.files.fileAt? (team.storage.place entry) :=
  World.fileAt?_release holder world (team.storage.place_ne_lockPlace entry)

namespace Stage

/-- A process has the lock in the phases that say so. -/
theorem isInside_eq (stage : team.Stage holder tree phase program deeds) :
    isInside deeds = phase.isWithin := by
  cases stage with
  | approaching approaches looks prepared =>
      exact isInside_of_preparatory fun deed done => (prepared deed done).1
  | barred prepared => exact isInside_of_preparatory prepared
  | looking entered looks => exact entered.inside
  | working entered works about alone there => exact entered.inside
  | leaving entered => exact entered.inside
  | ended outside unrefused => exact outside

theorem isHeld (stage : team.Stage holder tree phase program deeds)
    (within : phase.isWithin = true) : tree.IsHeld holder team.storage.lockPlace := by
  cases stage with
  | approaching approaches looks prepared => cases within
  | barred prepared => cases within
  | looking entered looks => exact entered.held
  | working entered works about alone there => exact entered.held
  | leaving entered => exact entered.held
  | ended outside unrefused => cases within

/-- While a memory is worked on no other category has its slug. -/
theorem alone (stage : team.Stage holder tree phase program deeds)
    (subject : phase.subject? = some entry) (symbol : Symbol)
    (present : team.storage.holds tree ⟨symbol, entry.slug⟩) : symbol = entry.symbol := by
  cases stage with
  | working entered works about alone there =>
      cases subject
      exact alone symbol present
  | _ => cases subject

/-- A process that may discard its memory is about to create it. -/
theorem creates (stage : team.Stage holder tree phase program deeds)
    (subject : phase.subject? = some entry) (discards : team.Discards holder) :
    team.Creates entry.slug holder := by
  cases stage with
  | working entered works about alone there =>
      cases subject
      rw [Discards] at discards
      rcases creation : team.command holder with _ | ⟨symbol, slug, content⟩
      case create =>
        rw [about symbol slug content creation]
        exact ⟨symbol, content, creation⟩
      all_goals
        rw [creation] at discards
        cases discards
  | _ => cases subject

/-- Who works on a memory has not ended. -/
theorem ne_done (stage : team.Stage holder tree (.working entry known) program deeds)
    (outcome : Except ExecutionError Outcome) : program ≠ .done outcome := by
  cases stage with
  | working entered works about alone there => exact Session.bind_leave_ne_done

theorem unrefused (stage : team.Stage holder tree phase program deeds)
    (notBarred : phase ≠ .barred) : ∀ deed ∈ deeds, deed.isRefusal = false := by
  cases stage with
  | approaching approaches looks prepared => exact fun deed done => (prepared deed done).2
  | barred prepared => exact absurd rfl notBarred
  | looking entered looks => exact entered.unrefused
  | working entered works about alone there => exact entered.unrefused
  | leaving entered => exact entered.unrefused
  | ended outside unrefused => exact unrefused

/-- Who was refused the lock was never let in. -/
theorem isPreparatory_of_refused (stage : team.Stage holder tree phase program deeds)
    (refused : ∃ deed ∈ deeds, deed.isRefusal) :
    ∀ deed ∈ deeds, team.storage.IsPreparatory deed := by
  rcases refused with ⟨refusal, done, refused⟩
  by_cases isBarred : phase = .barred
  · subst isBarred
    cases stage with
    | barred prepared => exact prepared
  · rw [stage.unrefused isBarred refusal done] at refused
    cases refused

/-- What others do that changes no memory and not the lock leaves a process where it is. -/
theorem congr {changed : FileTree} (stage : team.Stage holder tree phase program deeds)
    (same : phase.isWithin → changed.IsHeld holder team.storage.lockPlace ∧
      ∀ entry, team.storage.holds changed entry = team.storage.holds tree entry) :
    team.Stage holder changed phase program deeds := by
  cases stage with
  | approaching approaches looks prepared => exact .approaching approaches looks prepared
  | barred prepared => exact .barred prepared
  | looking entered looks =>
      exact .looking ⟨(same rfl).1, entered.inside, entered.unrefused⟩ looks
  | working entered works about alone there =>
      refine .working ⟨(same rfl).1, entered.inside, entered.unrefused⟩ works about ?_ ?_
      · intro symbol present
        exact alone symbol ((same rfl).2 _ ▸ present)
      · intro isKnown
        exact ((same rfl).2 _).symm ▸ there isKnown
  | leaving entered => exact .leaving ⟨(same rfl).1, entered.inside, entered.unrefused⟩
  | ended outside unrefused => exact .ended outside unrefused

end Stage

/-- A step that is made outside of the lock. -/
theorem advanced_of_outside (outside : phase.isWithin = false)
    (same : ∀ other, after.files.fileAt? (team.storage.place other) =
      world.files.fileAt? (team.storage.place other))
    (lock : ∀ taker, world.files.IsHeld taker team.storage.lockPlace →
      after.files.IsHeld taker team.storage.lockPlace ∧ next.isWithin = false)
    (idle : ∀ entry known, next ≠ .working entry known)
    (fails : ∀ outcome, rest ≠ .done (.ok outcome)) :
    team.Advanced holder world after phase next rest where
  others := fun other _ => same other
  lock := fun _ => lock
  kept := by
    rintro entry known rfl
    cases outside
  found := fun entry known working => absurd working (idle entry known)
  succeeded := fun outcome _ _ _ ended => absurd ended (fails outcome)

/-- A step behind the lock that changes no memory and is not the last one. -/
theorem advanced_of_inside (inside : phase.isWithin = true)
    (same : ∀ other, after.files.fileAt? (team.storage.place other) =
      world.files.fileAt? (team.storage.place other))
    (found : ∀ entry known, next = .working entry known →
      (∃ known, phase = .working entry known) ∨
        (team.session holder).Finds (team.command holder) world.files entry)
    (fails : ∀ outcome, rest ≠ .done (.ok outcome)) :
    team.Advanced holder world after phase next rest where
  others := fun other _ => same other
  lock := by
    intro outside
    rw [inside] at outside
    cases outside
  kept := by
    intro entry known _ _ _ present
    exact (holds_congr (same entry)).symm ▸ present
  found := found
  succeeded := fun outcome _ _ _ ended => absurd ended (fails outcome)

theorem ne_ok_of_approaches {inside : Program (Except ExecutionError Outcome)}
    (approaches : (team.session holder).Approaches inside program) (outcome : Outcome) :
    program ≠ .done (.ok outcome) := by
  rintro rfl
  cases approaches

theorem isPrepared_cons (prepared : ∀ deed ∈ deeds,
      team.storage.IsPreparatory deed ∧ deed.isRefusal = false)
    (preparatory : team.storage.IsPreparatory deed) (granted : deed.isRefusal = false) :
    ∀ other ∈ deed :: deeds, team.storage.IsPreparatory other ∧ other.isRefusal = false :=
  List.forall_mem_cons.mpr ⟨⟨preparatory, granted⟩, prepared⟩

theorem step_of_approaching {task : Task ExecutionError Outcome}
    (approaches : (team.session holder).Approaches
      (task.run.bind (team.session holder).leave) program)
    (looks : (team.session holder).LooksUp (team.Discards holder)
      ((team.session holder).Finds (team.command holder))
      (fun _ => Session.Completes (team.Discards holder)) task.run)
    (prepared : ∀ deed ∈ deeds, team.storage.IsPreparatory deed ∧ deed.isRefusal = false)
    (made : program.step? holder world = some (deed, rest, after)) :
    ∃ next, team.Stage holder after.files next rest (deed :: deeds) ∧
      team.Advanced holder world after .approaching next rest := by
  cases approaches with
  | failed failure => cases made
  | look onward =>
      cases made
      refine ⟨.approaching,
        .approaching (onward _) looks (isPrepared_cons prepared trivial rfl), ?_⟩
      exact advanced_of_outside rfl (fun _ => rfl) (fun _ held => ⟨held, rfl⟩)
        (fun _ _ working => by cases working) (ne_ok_of_approaches (onward _))
  | prepare onward =>
      cases made
      refine ⟨.approaching, .approaching (onward _) looks (isPrepared_cons prepared rfl rfl), ?_⟩
      exact advanced_of_outside rfl (fun _ => World.fileAt?_change List.not_mem_nil)
        (fun _ held => ⟨World.isHeld_change List.not_mem_nil held, rfl⟩)
        (fun _ _ working => by cases working) (ne_ok_of_approaches (onward _))
  | take refused entered =>
      have frame := (World.acquire_spec holder team.storage.lockPlace world).2
      have keeps : ∀ taker, world.files.IsHeld taker team.storage.lockPlace →
          (world.acquire holder team.storage.lockPlace).1 ≠ .ok true ∧
            (world.acquire holder team.storage.lockPlace).2.files.IsHeld taker
              team.storage.lockPlace := fun taker held => World.acquire_of_isHeld held
      have apart : ∀ other, team.storage.place other ≠ team.storage.lockPlace :=
        fun other => team.storage.place_ne_lockPlace other
      rw [Program.step?, storage_session] at made
      rcases acquired : world.acquire holder team.storage.lockPlace with ⟨answer, between⟩
      rw [acquired] at frame keeps made
      cases made
      by_cases granted : answer = .ok true
      · subst granted
        simp only [entered]
        refine ⟨.looking, .looking ⟨World.isHeld_of_acquire acquired, rfl, ?_⟩ looks, ?_⟩
        · exact List.forall_mem_cons.mpr ⟨rfl, fun other done => (prepared other done).2⟩
        · refine advanced_of_outside rfl (fun other => frame _ (apart other)) ?_
            (fun _ _ working => by cases working) fun _ => Session.bind_leave_ne_done
          -- Nobody can have had the lock before, since it was granted.
          intro taker held
          exact absurd rfl (keeps taker held).1
      · rcases refused answer granted with ⟨failure, ended⟩
        simp only [ended]
        refine ⟨.barred, .barred ?_, ?_⟩
        · exact List.forall_mem_cons.mpr ⟨⟨rfl, granted⟩, fun other done => (prepared other done).1⟩
        · refine advanced_of_outside rfl (fun other => frame _ (apart other))
            (fun taker held => ⟨(keeps taker held).2, rfl⟩) (fun _ _ working => by cases working) ?_
          intro outcome succeeded
          cases succeeded

/-- No other category has the slug of a memory that was just looked up. -/
theorem alone_of_finds {command : Command} (unique : team.storage.HasOneKind tree)
    (found : (team.session holder).Finds command tree entry) (symbol : Symbol)
    (present : team.storage.holds tree ⟨symbol, entry.slug⟩) : symbol = entry.symbol := by
  cases command with
  | create kind slug content =>
      rcases found with ⟨rfl, free⟩
      have absent : tree.fileAt? (team.storage.place ⟨symbol, slug⟩) = none :=
        Storage.fileAt?_of_find? free symbol
      rw [Storage.holds_eq, absent] at present
      cases present
  | update reference content =>
      exact unique entry.slug symbol entry.symbol present (Storage.holds_of_resolve? found)
  | delete reference =>
      exact unique entry.slug symbol entry.symbol present (Storage.holds_of_resolve? found)
  | _ => cases found

theorem step_of_looking (entered : team.Entered holder world.files deeds)
    (looks : (team.session holder).LooksUp (team.Discards holder)
      ((team.session holder).Finds (team.command holder))
      (fun _ => Session.Completes (team.Discards holder)) program)
    (unique : team.storage.HasOneKind world.files)
    (made : (program.bind (team.session holder).leave).step? holder world =
      some (deed, rest, after)) :
    ∃ next, team.Stage holder after.files next rest (deed :: deeds) ∧
      team.Advanced holder world after .looking next rest := by
  rcases looks with ⟨looked⟩
  cases made
  have still : team.Entered holder world.files (.observed :: deeds) :=
    entered.step rfl entered.held
  rcases looked world.toView with ⟨failure, failed⟩ | ⟨entry, found, works⟩
  · simp only [failed]
    refine ⟨.leaving, .leaving still, ?_⟩
    refine advanced_of_inside rfl (fun _ => rfl) (fun _ _ working => by cases working) ?_
    intro outcome ended
    cases ended
  · refine ⟨.working entry false, .working still works ?_ (alone_of_finds unique found)
      (fun never => by cases never), ?_⟩
    · intro symbol slug content creates
      rw [creates] at found
      exact found.1
    · refine advanced_of_inside rfl (fun _ => rfl) ?_ fun _ => Session.bind_leave_ne_done
      intro other known same
      cases same
      exact .inr found

theorem step_of_working (entered : team.Entered holder world.files deeds)
    (works : (team.session holder).Works entry (team.Discards holder)
      (Session.Completes (team.Discards holder)) known program)
    (about : ∀ symbol slug content, team.command holder = .create symbol slug content →
      entry = ⟨symbol, slug⟩)
    (alone : ∀ symbol, team.storage.holds world.files ⟨symbol, entry.slug⟩ → symbol = entry.symbol)
    (there : known → team.storage.holds world.files entry)
    (trusts : team.Trusts world.git)
    (made : (program.bind (team.session holder).leave).step? holder world =
      some (deed, rest, after)) :
    ∃ next, team.Stage holder after.files next rest (deed :: deeds) ∧
      team.Advanced holder world after (.working entry known) next rest := by
  rcases worked_of_works trusts works made with
    ⟨outcome, rfl, completes⟩ | ⟨onward, later, rfl, works, worked⟩
  · cases made
    refine ⟨.ended, entered.left, fun other _ => fileAt?_release holder other, ?_, ?_, ?_, ?_⟩
    · intro outside
      cases outside
    · rintro other isKnown ⟨⟩ _ _ present
      exact (holds_congr (fileAt?_release holder entry)).symm ▸ present
    · intro other isKnown working
      cases working
    · intro result symbol slug content succeeded creates
      cases succeeded
      have discards : team.Discards holder := by
        rw [Discards, creates]
        rfl
      have present : team.storage.holds world.files entry := there (completes discards rfl)
      rw [← about symbol slug content creates]
      exact ⟨⟨known, rfl⟩, (holds_congr (fileAt?_release holder entry)).symm ▸ present⟩
  · refine ⟨.working entry later, .working ?_ works about ?_ (worked.there there), ?_⟩
    · exact entered.step worked.plain (worked.lock holder entered.held)
    · intro symbol present
      by_contra other
      have apart : (⟨symbol, entry.slug⟩ : MemoryEntry) ≠ entry := by
        intro same
        exact other (congrArg MemoryEntry.symbol same)
      rw [holds_congr (worked.others _ apart)] at present
      exact other (alone symbol present)
    · refine ⟨?_, ?_, ?_, ?_, ?_⟩
      · intro other apart
        exact worked.others other fun same => apart (by rw [same]; rfl)
      · intro outside
        cases outside
      · rintro other isKnown ⟨⟩
        exact worked.kept
      · rintro other isKnown ⟨⟩
        exact .inl ⟨known, rfl⟩
      · intro outcome symbol slug content ended _
        exact absurd ended Session.bind_leave_ne_done

/-- A step of a process leads to a phase again, and does no more than it may. -/
theorem Stage.step (stage : team.Stage holder world.files phase program deeds)
    (unique : team.storage.HasOneKind world.files) (trusts : team.Trusts world.git)
    (made : program.step? holder world = some (deed, rest, after)) :
    ∃ next, team.Stage holder after.files next rest (deed :: deeds) ∧
      team.Advanced holder world after phase next rest := by
  cases stage with
  | approaching approaches looks prepared =>
      exact step_of_approaching approaches looks prepared made
  | barred prepared => cases made
  | looking entered looks => exact step_of_looking entered looks unique made
  | working entered works about alone there =>
      exact step_of_working entered works about alone there trusts made
  | leaving entered =>
      cases made
      refine ⟨.ended, entered.left, ?_⟩
      refine advanced_of_inside rfl (fun other => fileAt?_release holder other)
        (fun _ _ working => by cases working) ?_
      intro outcome succeeded
      cases succeeded
  | ended outside unrefused => cases made

/-- Only a memory that is worked on changes, and no other category has its slug. -/
theorem hasOneKind_of_advanced (stage : team.Stage holder world.files phase program deeds)
    (unique : team.storage.HasOneKind world.files)
    (advanced : team.Advanced holder world after phase next rest) :
    team.storage.HasOneKind after.files := by
  intro slug left right presentLeft presentRight
  have before : ∀ symbol, team.storage.holds after.files ⟨symbol, slug⟩ →
      phase.subject? ≠ some ⟨symbol, slug⟩ → team.storage.holds world.files ⟨symbol, slug⟩ := by
    intro symbol present elsewhere
    exact (holds_congr (advanced.others _ elsewhere)) ▸ present
  -- If neither file is the one that is worked on, both were there before.
  by_cases onLeft : phase.subject? = some ⟨left, slug⟩
  · by_contra apart
    have elsewhere : phase.subject? ≠ some ⟨right, slug⟩ := by
      rw [onLeft]
      intro same
      cases same
      exact apart rfl
    exact apart (stage.alone onLeft right (before right presentRight elsewhere)).symm
  · by_cases onRight : phase.subject? = some ⟨right, slug⟩
    · exact stage.alone onRight left (before left presentLeft onLeft)
    · exact unique slug left right (before left presentLeft onLeft)
        (before right presentRight onRight)

end Team

end MemoryKeeper

import MemoryKeeper.Proofs.Interleaving

/-!
# Programs that are broken off

A program may end before its time, between two of its steps or within a change of
files, of which a part may have been made by then. A change may also fail for a
cause that the files do not show and leave such a part, and the program goes on.
The run of a program to its end is one of the ways that it may take.

Changes that are made in turn, up to the first that fails, leave a beginning of
them made as a whole and at most one more in part.
-/

namespace MemoryKeeper

open MemoryKeeper.Path (Location)

/-- What a change may leave of the files where it is not made as a whole: some of the directories,
or some of the bytes. A file is made, moved or removed as a whole or not at all. -/
inductive Edit.Leaves : Edit → FileTree → FileTree → Prop where
  | nothing (edit : Edit) (tree : FileTree) : Leaves edit tree tree
  | directories {place above : Location} {tree left : FileTree} (onTheWay : above <+: place)
      (made : tree.createDirectories above = .ok left) :
      Leaves (.createDirectories place) tree left
  | bytes {place : Location} {content added missing : ByteArray} {tree left : FileTree}
      (split : added ++ missing = content) (made : tree.append added place = .ok left) :
      Leaves (.append place content) tree left

/-- What a series of changes may leave of the files, and those of the changes that are made as a
whole by then. -/
inductive Edit.InTurn : List Edit → FileTree → List Edit → FileTree → Prop where
  | done (tree : FileTree) : InTurn [] tree [] tree
  | unfinished {edit : Edit} {edits : List Edit} {tree left : FileTree}
      (leaves : edit.Leaves tree left) : InTurn (edit :: edits) tree [] left
  | made {edit : Edit} {edits whole : List Edit} {tree between left : FileTree}
      (applied : edit.apply tree = .ok between) (later : InTurn edits between whole left) :
      InTurn (edit :: edits) tree (edit :: whole) left

namespace Edit

variable {edits whole : List Edit} {tree left : FileTree}

theorem InTurn.isPrefix (inTurn : InTurn edits tree whole left) : whole <+: edits := by
  induction inTurn with
  | done tree => exact List.prefix_rfl
  | unfinished leaves => exact List.nil_prefix
  | made applied later ih => exact List.cons_prefix_cons.mpr ⟨rfl, ih⟩

/-- A property of files holds at every point of a series if it is kept by the changes that are made
as a whole and by what the others may leave. -/
theorem InTurn.kept {kept : FileTree → Prop} (inTurn : InTurn edits tree whole left)
    (parts : ∀ edit ∈ edits, ∀ tree left, kept tree → edit.Leaves tree left → kept left)
    (wholes : ∀ edit ∈ whole, ∀ tree changed, kept tree → edit.apply tree = .ok changed →
      kept changed)
    (before : kept tree) : kept left := by
  induction inTurn with
  | done tree => exact before
  | unfinished leaves => exact parts _ List.mem_cons_self _ _ before leaves
  | made applied later ih =>
      have between := wholes _ List.mem_cons_self _ _ before applied
      refine ih ?_ ?_ between
      · intro edit further
        exact parts edit (List.mem_cons_of_mem _ further)
      · intro edit further
        exact wholes edit (List.mem_cons_of_mem _ further)

end Edit

/-- The changes of files that were made as a whole, among all that was done. -/
def editsMade (deeds : List Deed) : List Edit :=
  deeds.filterMap fun
    | .changed edit (.ok ()) => some edit
    | _ => none

@[simp]
theorem editsMade_nil : editsMade [] = [] :=
  rfl

@[simp]
theorem editsMade_changed_ok (edit : Edit) (deeds : List Deed) :
    editsMade (.changed edit (.ok ()) :: deeds) = edit :: editsMade deeds :=
  rfl

@[simp]
theorem editsMade_changed_error (edit : Edit) (cause : OsError) (deeds : List Deed) :
    editsMade (.changed edit (.error cause) :: deeds) = editsMade deeds :=
  rfl

theorem mem_editsMade {edit : Edit} {deeds : List Deed} :
    edit ∈ editsMade deeds ↔ .changed edit (.ok ()) ∈ deeds := by
  rw [editsMade, List.mem_filterMap]
  constructor
  · rintro ⟨deed, present, isMade⟩
    split at isMade
    · cases isMade
      exact present
    · cases isMade
  · intro present
    exact ⟨_, present, rfl⟩

namespace Program

variable {Result : Type} {holder : Holder} {world after : World} {deeds : List Deed}

/-- The ways of a program from a world: what it does until it ends or is broken off, and the world
at that point. -/
inductive Passes (holder : Holder) : Program Result → World → List Deed → World → Prop where
  | stopped (program : Program Result) (world : World) : Passes holder program world [] world
  | torn {edit : Edit} {next : Except OsError Unit → Program Result} {world : World}
      {files : FileTree} (leaves : edit.Leaves world.files files) :
      Passes holder (.change edit next) world [] (world.withFiles files)
  | failed {edit : Edit} {next : Except OsError Unit → Program Result} {world after : World}
      {files : FileTree} {deeds : List Deed} (cause : OsError)
      (leaves : edit.Leaves world.files files)
      (later : Passes holder (next (.error cause)) (world.withFiles files) deeds after) :
      Passes holder (.change edit next) world (.changed edit (.error cause) :: deeds) after
  | made {program rest : Program Result} {world between after : World} {deed : Deed}
      {deeds : List Deed} (step : program.step? holder world = some (deed, rest, between))
      (later : Passes holder rest between deeds after) :
      Passes holder program world (deed :: deeds) after

/-- The run of a program to its end is one of its ways. -/
theorem passes_run (program : Program Result) (world : World) :
    ∃ deeds, program.Passes holder world deeds (program.run holder world).2 := by
  induction program generalizing world with
  | done value => exact ⟨[], .stopped _ world⟩
  | observe next ih =>
      rcases ih world.toView world with ⟨deeds, later⟩
      exact ⟨_, .made rfl later⟩
  | change edit next ih =>
      rcases ih (world.change edit).1 (world.change edit).2 with ⟨deeds, later⟩
      exact ⟨_, .made rfl later⟩
  | start invocation next ih =>
      rcases ih (world.start invocation).1 (world.start invocation).2 with ⟨deeds, later⟩
      exact ⟨_, .made rfl later⟩
  | acquire place next ih =>
      rcases ih (world.acquire holder place).1 (world.acquire holder place).2 with ⟨deeds, later⟩
      exact ⟨_, .made rfl later⟩
  | release place next ih =>
      rcases ih (world.release holder place) with ⟨deeds, later⟩
      exact ⟨_, .made rfl later⟩

theorem Passes.eq_of_done {value : Result}
    (passed : (done value).Passes holder world deeds after) : deeds = [] ∧ after = world := by
  cases passed with
  | stopped => exact ⟨rfl, rfl⟩
  | made step later => cases step

theorem Passes.changed {edit : Edit} {next : Except OsError Unit → Program Result}
    {files : FileTree} (applied : edit.apply world.files = .ok files)
    (later : (next (.ok ())).Passes holder (world.withFiles files) deeds after) :
    (change edit next).Passes holder world (.changed edit (.ok ()) :: deeds) after := by
  refine .made ?_ later
  rw [step?, World.change_of_ok world edit applied]

/-- A change is made as a whole, or the program learns that it failed, or is broken off at it. -/
theorem Passes.change_cases {edit : Edit} {next : Except OsError Unit → Program Result}
    (passed : (change edit next).Passes holder world deeds after) :
    (∃ files later, edit.apply world.files = .ok files ∧
      deeds = .changed edit (.ok ()) :: later ∧
      (next (.ok ())).Passes holder (world.withFiles files) later after) ∨
    (∃ cause files later, edit.Leaves world.files files ∧
      deeds = .changed edit (.error cause) :: later ∧
      (next (.error cause)).Passes holder (world.withFiles files) later after) ∨
    edit.Leaves world.files after.files ∧ deeds = [] := by
  cases passed with
  | stopped => exact .inr (.inr ⟨.nothing edit world.files, rfl⟩)
  | torn leaves => exact .inr (.inr ⟨leaves, rfl⟩)
  | failed cause leaves later => exact .inr (.inl ⟨cause, _, _, leaves, rfl, later⟩)
  | made step later =>
      rcases applied : edit.apply world.files with error | files
      · have refused := World.change_of_error world edit applied
        simp only [step?, refused, Option.some.injEq, Prod.mk.injEq] at step
        rcases step with ⟨rfl, rfl, rfl⟩
        exact .inr (.inl ⟨error, world.files, _, .nothing edit world.files, rfl, later⟩)
      · have changed := World.change_of_ok world edit applied
        simp only [step?, changed, Option.some.injEq, Prod.mk.injEq] at step
        rcases step with ⟨rfl, rfl, rfl⟩
        exact .inl ⟨files, _, rfl, rfl, later⟩

end Program

end MemoryKeeper

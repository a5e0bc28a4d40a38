import MemoryKeeper.Proofs.Tasks
import Mathlib.Data.List.Infix
import Mathlib.Logic.Function.Basic

/-!
# Programs side by side

Several holders of locks perform their programs in one world. At each turn one of
them makes its next step, whichever of them it is and whatever the clock shows,
so any number of steps of others can come between two steps of a program. A
program that has ended lets its turns pass.

What everybody did is kept, since some of what must hold is about the order of
steps and cannot be read off the world.
-/

namespace MemoryKeeper

open MemoryKeeper.Path (Location)

/-- What a program did in one step, with what it was answered. -/
inductive Deed where
  | observed
  | changed (edit : Edit) (answer : Except OsError Unit)
  | called (invocation : Git.Invocation) (answer : Except Git.StartFailure Git.Completion)
  | acquired (place : Location) (answer : Except OsError Bool)
  | released (place : Location)

namespace Program

variable {Result : Type} {program rest : Program Result} {holder : Holder} {world after : World}
  {deed : Deed}

/-- The next step of a program: what it does, what is left to do, and the world afterwards. -/
def step? (holder : Holder) : Program Result → World → Option (Deed × Program Result × World)
  | .done _, _ => none
  | .observe next, world => some (.observed, next world.toView, world)
  | .change edit next, world =>
    some (.changed edit (world.change edit).1, next (world.change edit).1, (world.change edit).2)
  | .start invocation next, world =>
    some (.called invocation (world.start invocation).1, next (world.start invocation).1,
      (world.start invocation).2)
  | .acquire place next, world =>
    some (.acquired place (world.acquire holder place).1, next (world.acquire holder place).1,
      (world.acquire holder place).2)
  | .release place next, world => some (.released place, next, world.release holder place)

/-- What a program came to, if it has ended. -/
def result? : Program Result → Option Result
  | .done value => some value
  | _ => none

theorem eq_done_of_result? {value : Result} (ended : program.result? = some value) :
    program = .done value := by
  cases program with
  | done other =>
      cases ended
      rfl
  | _ => cases ended

/-- Performing a program alone is making its steps one after another. -/
theorem run_of_step? (made : program.step? holder world = some (deed, rest, after)) :
    program.run holder world = rest.run holder after := by
  cases program with
  | done value => cases made
  | _ =>
      cases made
      rfl

/-- No step changes how git answers. -/
theorem git_step? (made : program.step? holder world = some (deed, rest, after)) :
    after.git = world.git := by
  cases program with
  | done value => cases made
  | observe next =>
      cases made
      rfl
  | change edit next =>
      cases made
      exact World.git_change edit world
  | start invocation next =>
      cases made
      exact World.git_start invocation world
  | acquire place next =>
      cases made
      exact World.git_acquire holder place world
  | release place next =>
      cases made
      rfl

/-- Exchanges with git are only ever added. -/
theorem exchanges_step? (made : program.step? holder world = some (deed, rest, after)) :
    world.exchanges <:+ after.exchanges := by
  cases program with
  | done value => cases made
  | observe next =>
      cases made
      exact List.suffix_rfl
  | change edit next =>
      cases made
      rw [World.exchanges_change]
  | start invocation next =>
      cases made
      exact World.exchanges_start invocation world
  | acquire place next =>
      cases made
      rw [World.exchanges_acquire]
  | release place next =>
      cases made
      exact List.suffix_rfl

end Program

/-- Programs in a world, and what their holders have done so far, the last deed first. -/
structure Scene (Result : Type) where
  world : World
  programs : Holder → Program Result
  deeds : Holder → List Deed

/-- The turn of a holder, at a time of the clock. -/
structure Turn where
  time : Timestamp
  holder : Holder

namespace Scene

variable {Result : Type} {scene : Scene Result} {turn : Turn} {deed : Deed}
  {rest : Program Result} {after : World}

/-- The world as it is found at a turn. -/
def worldAt (scene : Scene Result) (time : Timestamp) : World :=
  { scene.world with now := time }

/-- The scene after a turn. -/
def advance (scene : Scene Result) (turn : Turn) : Scene Result :=
  match (scene.programs turn.holder).step? turn.holder (scene.worldAt turn.time) with
  | none => scene
  | some (deed, rest, after) =>
    { world := after
      programs := Function.update scene.programs turn.holder rest
      deeds := Function.update scene.deeds turn.holder (deed :: scene.deeds turn.holder) }

/-- The scene after some turns. -/
def play (scene : Scene Result) (turns : List Turn) : Scene Result :=
  turns.foldl advance scene

theorem advance_of_ended
    (ended : (scene.programs turn.holder).step? turn.holder (scene.worldAt turn.time) = none) :
    scene.advance turn = scene := by
  rw [advance, ended]

theorem advance_of_step?
    (made : (scene.programs turn.holder).step? turn.holder (scene.worldAt turn.time) =
      some (deed, rest, after)) :
    scene.advance turn =
      { world := after
        programs := Function.update scene.programs turn.holder rest
        deeds := Function.update scene.deeds turn.holder (deed :: scene.deeds turn.holder) } := by
  rw [advance, made]

theorem world_advance
    (made : (scene.programs turn.holder).step? turn.holder (scene.worldAt turn.time) =
      some (deed, rest, after)) : (scene.advance turn).world = after := by
  rw [advance_of_step? made]

theorem programs_advance
    (made : (scene.programs turn.holder).step? turn.holder (scene.worldAt turn.time) =
      some (deed, rest, after)) :
    (scene.advance turn).programs = Function.update scene.programs turn.holder rest := by
  rw [advance_of_step? made]

theorem exchanges_advance (scene : Scene Result) (turn : Turn) :
    scene.world.exchanges <:+ (scene.advance turn).world.exchanges := by
  rcases made : (scene.programs turn.holder).step? turn.holder (scene.worldAt turn.time) with
    _ | ⟨deed, rest, after⟩
  · rw [advance_of_ended made]
  · rw [advance_of_step? made]
    have grown := Program.exchanges_step? made
    exact grown

theorem exchanges_play (scene : Scene Result) (turns : List Turn) :
    scene.world.exchanges <:+ (scene.play turns).world.exchanges := by
  induction turns generalizing scene with
  | nil => exact List.suffix_rfl
  | cons turn turns ih => exact (exchanges_advance scene turn).trans (ih (scene.advance turn))

end Scene

/-- Whether the last thing that a holder did about a lock, the last deed first, was to take it. -/
def isInside : List Deed → Bool
  | [] => false
  | .acquired _ (.ok true) :: _ => true
  | .released _ :: _ => false
  | _ :: earlier => isInside earlier

end MemoryKeeper

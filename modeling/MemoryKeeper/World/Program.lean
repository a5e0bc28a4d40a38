import MemoryKeeper.World.Basic

/-!
# Programs

A program is a tree of steps, each of which goes on according to what the world
answered. The steps are the operations of the world, so whatever may happen to a
program between two of its steps, another program's step or its own end, has a
place in the tree.

Running a program alone performs its steps one after another for one holder of
locks. A task is a program that may fail.
-/

namespace MemoryKeeper

open MemoryKeeper.Path (Location)

/-- The steps of a command up to its result. -/
inductive Program (Result : Type) where
  | done (value : Result)
  | observe (next : View → Program Result)
  | change (edit : Edit) (next : Except OsError Unit → Program Result)
  | start (invocation : Git.Invocation)
      (next : Except Git.StartFailure Git.Completion → Program Result)
  | acquire (place : Location) (next : Except OsError Bool → Program Result)
  | release (place : Location) (next : Program Result)

namespace Program

variable {Result Other : Type}

/-- A program that goes on with another one. -/
def bind : Program Result → (Result → Program Other) → Program Other
  | .done value, continuation => continuation value
  | .observe next, continuation => .observe fun view => (next view).bind continuation
  | .change edit next, continuation =>
    .change edit fun answer => (next answer).bind continuation
  | .start invocation next, continuation =>
    .start invocation fun answer => (next answer).bind continuation
  | .acquire place next, continuation =>
    .acquire place fun answer => (next answer).bind continuation
  | .release place next, continuation => .release place (next.bind continuation)

instance : Monad Program where
  pure := .done
  bind := bind

/-- Performs a program for a holder of locks. -/
def run (holder : Holder) : Program Result → World → Result × World
  | .done value, world => (value, world)
  | .observe next, world => (next world.toView).run holder world
  | .change edit next, world =>
    let (answer, world) := world.change edit
    (next answer).run holder world
  | .start invocation next, world =>
    let (answer, world) := world.start invocation
    (next answer).run holder world
  | .acquire place next, world =>
    let (answer, world) := world.acquire holder place
    (next answer).run holder world
  | .release place next, world => next.run holder (world.release holder place)

theorem run_bind (holder : Holder) (program : Program Result)
    (continuation : Result → Program Other) (world : World) :
    (program.bind continuation).run holder world =
      (continuation (program.run holder world).1).run holder (program.run holder world).2 := by
  induction program generalizing world with
  | done value => rfl
  | observe next ih => exact ih world.toView world
  | change edit next ih => exact ih _ _
  | start invocation next ih => exact ih _ _
  | acquire place next ih => exact ih _ _
  | release place next ih => exact ih _

end Program

/-- A program that may fail. -/
abbrev Task (Failure Result : Type) := ExceptT Failure Program Result

namespace Task

variable {Failure OtherFailure Result : Type}

/-- What a function finds in the view of the moment. -/
def observe (look : View → Result) : Task Failure Result :=
  ExceptT.mk (.observe fun view => .done (.ok (look view)))

/-- What a function that may fail finds in the view of the moment. -/
def inspect (look : View → Except Failure Result) : Task Failure Result :=
  ExceptT.mk (.observe fun view => .done (look view))

def change (edit : Edit) : Task OsError Unit :=
  ExceptT.mk (.change edit .done)

def start (invocation : Git.Invocation) : Task Git.StartFailure Git.Completion :=
  ExceptT.mk (.start invocation .done)

/-- A lock at a place; tells whether it was free. -/
def acquire (place : Location) : Task OsError Bool :=
  ExceptT.mk (.acquire place .done)

/-- The end of a lock at a place. -/
def release (place : Location) : Task Failure Unit :=
  ExceptT.mk (.release place (.done (.ok ())))

/-- The same task with its failure in other words. -/
def mapFailure (express : Failure → OtherFailure) (task : Task Failure Result) :
    Task OtherFailure Result :=
  ExceptT.mk (task.run.bind fun outcome => .done (outcome.mapError express))

/-- What a task comes to, as a result that is no failure. -/
def outcome (task : Task Failure Result) : Task OtherFailure (Except Failure Result) :=
  ExceptT.mk (task.run.bind fun outcome => .done (.ok outcome))

/-- A task whose result and failure do not matter. -/
def attempt (task : Task Failure Result) : Task OtherFailure Unit :=
  ExceptT.mk (task.run.bind fun _ => .done (.ok ()))

/-- A task after which something is done in any case, whatever that comes to. -/
def thenAlways (task : Task Failure Result) (last : Task Failure Unit) : Task Failure Result :=
  ExceptT.mk (task.run.bind fun outcome => last.run.bind fun _ => .done outcome)

/-- A task whose failure is made good as far as possible before it is passed on. -/
def compensate (task : Task Failure Result) (remedy : Task Failure Unit) :
    Task Failure Result :=
  ExceptT.mk (task.run.bind fun
    | .ok value => .done (.ok value)
    | .error failure => remedy.run.bind fun _ => .done (.error failure))

end Task

end MemoryKeeper

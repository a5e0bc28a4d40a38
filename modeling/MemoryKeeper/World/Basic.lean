import MemoryKeeper.Git.Invocation
import MemoryKeeper.Text.Utf8
import MemoryKeeper.Time.Timestamp

/-!
# The world around a command

A command sees files, the clock, its environment and its current directory. Git is
part of the world: what it answers and what it leaves of the files may depend on
everything that was exchanged with it before, so a world can hold any git whatever.

A program is named or stands at a path. The programs that can be started lie
outside the files that a command sees; none of these files can be run. What keeps
a process from starting is looked at in turn: its command line, the directory that
it would run in, its program, and the length of its arguments.

Each operation of the world is one step that nothing can come between.
-/

namespace MemoryKeeper

open MemoryKeeper.Path (Location)

/-- The settings that a command takes from its environment. -/
structure Environment where
  /-- A configuration file that is named directly. -/
  configFile : Option String
  /-- The directory of configuration files. -/
  configHome : Option String
  /-- The home directory. -/
  home : Option String
  deriving DecidableEq, Repr

/-- What a command can see. -/
structure View where
  files : FileTree
  now : Timestamp
  environment : Environment
  currentDirectory : String

/-- What a git process answers, and the files that it leaves. -/
structure Reply where
  /-- The exit status; a process that was killed has none. -/
  code : Option Int
  output : ByteArray
  complaint : ByteArray
  files : FileTree

/-- A git process that was run, and the files that it found. -/
structure Exchange where
  invocation : Git.Invocation
  found : FileTree
  reply : Reply

/-- What a command runs in. -/
structure World extends View where
  /-- The programs that can be started, by the name or the path that they are started with. -/
  programs : List String
  /-- What git answers, given the exchanges so far, the last one first. -/
  git : List Exchange → Git.Invocation → FileTree → Reply
  /-- The exchanges so far, the last one first. -/
  exchanges : List Exchange

/-- A change of the files that a command makes in one step. -/
inductive Edit where
  | createDirectories (place : Location)
  | createFile (place : Location)
  | append (place : Location) (content : ByteArray)
  /-- The file's content must be on disk before anything else happens. -/
  | synchronize (place : Location)
  | rename (source target : Location)
  | removeFile (place : Location)

/-- The files after a change. What the files themselves do not show never refuses a change here: a
disk is never full, and what was written can always be brought to it. -/
def Edit.apply (tree : FileTree) : Edit → Except OsError FileTree
  | .createDirectories place => tree.createDirectories place
  | .createFile place => tree.createFile place
  | .append place content => tree.append content place
  | .synchronize _ => .ok tree
  | .rename source target => tree.rename source target
  | .removeFile place => tree.removeFile place

/-- The output of a process as text. -/
def Reply.completion (reply : Reply) : Git.Completion :=
  ⟨reply.code, Text.decodeLenient reply.output, Text.decodeLenient reply.complaint⟩

namespace World

def withFiles (world : World) (files : FileTree) : World :=
  { world with files := files }

/-- Makes a change, or leaves everything as it is if the change is refused. -/
def change (edit : Edit) (world : World) : Except OsError Unit × World :=
  match edit.apply world.files with
  | .ok files => (.ok (), world.withFiles files)
  | .error error => (.error error, world)

/-- Why no process can run in a directory, if none can. -/
def directoryFailure? (directory : String) (world : World) : Option OsError :=
  match world.files.locate "/" directory with
  | .error error => some error
  | .ok place => if world.files.isDirectory place then none else some .notADirectory

/-- Why a program cannot be run in a directory, if it cannot. -/
def programFailure? (directory program : String) (world : World) : Option OsError :=
  if program.toList.contains '/' then
    if FileTree.longestPath < program.utf8ByteSize then some .nameTooLong
    else if world.programs.contains program then none
    else
      match world.files.locate directory program with
      | .error error => some error
      | .ok _ => some .permissionDenied
  else if FileTree.longestName < program.utf8ByteSize then some .nameTooLong
  else if program = "." || program = ".." then some .permissionDenied
  else if world.programs.contains program then none
  else some .noEntry

/-- Why a process cannot be started, if it cannot. -/
def startFailure? (invocation : Git.Invocation) (world : World) : Option Git.StartFailure :=
  if invocation.holdsNull then some .nullCharacter
  else
    ((world.directoryFailure? invocation.directory) <|>
      (world.programFailure? invocation.directory invocation.program) <|>
      (if invocation.isTooLong then some OsError.argumentsTooLong else none)).map .system

/-- Runs a git process to its end. -/
def start (invocation : Git.Invocation) (world : World) :
    Except Git.StartFailure Git.Completion × World :=
  match world.startFailure? invocation with
  | some failure => (.error failure, world)
  | none =>
    let reply := world.git world.exchanges invocation world.files
    let exchange : Exchange := ⟨invocation, world.files, reply⟩
    (.ok reply.completion,
      { world with files := reply.files, exchanges := exchange :: world.exchanges })

/-- Opens the file at a place and lets a holder take it; tells whether it was free. -/
def acquire (holder : Holder) (place : Location) (world : World) :
    Except OsError Bool × World :=
  match world.files.openFile place with
  | .error error => (.error error, world)
  | .ok files =>
    match files.hold? holder place with
    | some held => (.ok true, world.withFiles held)
    | none => (.ok false, world.withFiles files)

/-- Lets a holder go of the file at a place. -/
def release (holder : Holder) (place : Location) (world : World) : World :=
  world.withFiles (world.files.release holder place)

end World

end MemoryKeeper

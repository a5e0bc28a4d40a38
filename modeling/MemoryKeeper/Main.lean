import MemoryKeeper.CommandLine.Run

/-!
# The program

The program reads its arguments, answers the expression, prints the response and
ends with its exit status. It answers from a picture of the files that a command
can look at: what stands around the repository, its memories, and the
configuration.

It starts no processes, so a command that needs git is answered as one whose git
program cannot be started. A command that changes memories is then taken back as
a whole, and the files stay as they are.
-/

namespace MemoryKeeper.Main

/-- What stands at a path and below it, as far as it can be read: directories without content, and
files with their bytes. Of stored objects only the names count. -/
def gather : Nat → String → IO (List (String × Option ByteArray))
  | 0, _ => return []
  | depth + 1, path => do
    try
      let place ← IO.FS.realPath path
      if ← place.isDir then
        let entries ← place.readDir
        let below ← entries.toList.mapM fun entry =>
          gather depth (Path.join path entry.fileName)
        return (path, none) :: below.flatten
      else if Text.holds "/objects/".toList path.toList then return [(path, some .empty)]
      else return [(path, some (← IO.FS.readBinFile path))]
    catch _ => return []

/-- How deep directories are looked into. -/
def depth : Nat := 32

/-- The entries of a directory that matter when it may be a repository. -/
def namesOfInterest : List String :=
  [Git.Repository.entryName, "HEAD", "commondir", "config", "config.worktree", "gitdir", "objects",
    "packed-refs", "refs", memoriesName]

/-- A place and the places above it. -/
def upwards (place : Path.Location) : List Path.Location :=
  (List.range (place.length + 1)).map place.take

def treeOf (gathered : List (String × Option ByteArray)) : FileTree :=
  gathered.foldl
    (fun tree (path, content) =>
      let place := Path.location path
      let changed := match content with
        | some content => tree.put place content
        | none => tree.createDirectories place
      changed.toOption.getD tree)
    (.directory [])

def worldOf (request : CommandLine.Request) : IO World := do
  let environment : Environment :=
    ⟨← IO.getEnv "GITMEM_CONFIG", ← IO.getEnv "XDG_CONFIG_HOME", ← IO.getEnv "HOME"⟩
  let currentDirectory := (← IO.currentDir).toString
  let start := Path.join currentDirectory (request.directory.getD ".")
  let around ← (upwards (Path.location start)).mapM fun place => do
    let directory := Path.ofLocation place
    let below ← namesOfInterest.mapM fun name => gather depth (Path.join directory name)
    return (directory, none) :: below.flatten
  let settings ← (Config.candidates environment).mapM fun path =>
    gather 1 (Path.join currentDirectory path)
  return {
    files := treeOf (around.flatten ++ settings.flatten)
    now := Timestamp.epoch
    environment := environment
    currentDirectory := currentDirectory
    programs := []
    git := fun _ _ files => ⟨none, .empty, .empty, files⟩
    exchanges := [] }

/-- The text that explains how the program is used. -/
def usage : String :=
  "Usage: gitmem [--cwd <path>] [--debug] [--quiet] [--compact] [--check] [EXPR]..."

def version : String := "gitmem 0.1.0"

/-- Prints the reason for a refusal; gives the exit status. -/
def refuse (refusal : CommandLine.Refusal) : IO UInt32 :=
  match refusal.kind with
  | .displayHelp => do
    IO.println usage
    return 0
  | .displayVersion => do
    IO.println version
    return 0
  | _ => do
    IO.eprintln (refusal.message?.getD usage)
    return 2

end MemoryKeeper.Main

open MemoryKeeper in
/-- Answers the expression that the arguments give. -/
def main (arguments : List String) : IO UInt32 := do
  match CommandLine.readArguments arguments with
  | .error refusal => Main.refuse refusal
  | .ok request =>
    let (ending, _) := (CommandLine.run request).run 0 (← Main.worldOf request)
    match ending with
    | .usageShown => IO.eprintln Main.usage
    | .answered .. => IO.print ending.output
    return UInt32.ofNat ending.status

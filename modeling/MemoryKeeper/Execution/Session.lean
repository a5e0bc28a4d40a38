import MemoryKeeper.Command.Checks
import MemoryKeeper.Config.Loading
import MemoryKeeper.Execution.Error
import MemoryKeeper.Execution.Outcome
import MemoryKeeper.Git.Repository

/-!
# Executing commands

A session is a repository with its configuration. Each command is a fixed
sequence of steps in it.

Commands that change memories first make sure that no operation of git is paused
and take the lock, which they keep until they end. They write the file, add it
and commit it alone, so changes of other files that are staged stay as they are.
If git refuses, the file is put back as it was before the refusal is reported.

Commands that only read change nothing and never take the lock. Text of the
caller reaches git only where git cannot read it as an option.
-/

namespace MemoryKeeper

/-- A repository in which commands are executed. -/
structure Session where
  repository : Git.Repository
  config : Config
  deriving DecidableEq, Repr

namespace Session

/-- The session of a view in the repository that a path leads to. -/
def ofView (path : String) (view : View) : Except ExecutionError Session := do
  let repository ←
    (Git.Repository.discover view.files view.currentDirectory path).mapError .git
  let storage : Storage := ⟨repository.commonDirectory, repository.workDirectory⟩
  let config ← (Config.load view (some storage)).mapError .config
  return ⟨repository, config⟩

/-- Opens the session in the repository that a path leads to. -/
def openAt (path : String) : Task ExecutionError Session :=
  .inspect (ofView path)

variable (session : Session)

/-- Where the session's memories are kept. -/
def storage : Storage :=
  ⟨session.repository.commonDirectory, session.repository.workDirectory⟩

/-- Runs git with arguments in the work tree; its status must be one of those accepted. -/
def git (arguments : List String) (accepted : List Int) :
    Task ExecutionError Git.Completion := do
  let settings := session.config.git
  let answer ← Task.outcome
    (Task.start (settings.invocation session.repository.workDirectory arguments))
  ExceptT.mk (.done ((settings.accept arguments accepted answer).mapError .git))

/-- Runs git with arguments in the work tree; it must succeed. -/
def runGit (arguments : List String) : Task ExecutionError Git.Completion :=
  session.git arguments [0]

/-- The current commit, if there is one. -/
def head : Task ExecutionError (Option ObjectId) :=
  .inspect fun view => (session.repository.head view.files).mapError .git

def resolve? (reference : String) : Task ExecutionError (Option MemoryEntry) :=
  .observe fun view => session.storage.resolve? view.files reference

/-- The memory that a reference must name. -/
def resolve (reference : String) : Task ExecutionError MemoryEntry := do
  match ← session.resolve? reference with
  | some entry => return entry
  | none => throw (.notAMemory reference)

/-- A task of a command that changes memories: no operation may be paused, and the lock is held
until the task has ended. -/
def exclusively {Result : Type} (task : Task ExecutionError Result) :
    Task ExecutionError Result := do
  Task.inspect fun view => (session.repository.ensureClean view.files).mapError .git
  session.storage.lock.mapFailure .lock
  task.thenAlways session.storage.unlock

/-- The subject of the commit that does something to a memory. -/
def subject (verb : String) (entry : MemoryEntry) : String :=
  session.config.subjectStart ++ ": " ++ verb ++ " " ++ entry.symbol.glyph ++ " " ++
    entry.slug.text

/-- Commits a memory's file alone; gives the new commit. -/
def commit (verb : String) (entry : MemoryEntry) : Task ExecutionError String := do
  let _ ← session.runGit
    ["commit", "-q", "-m", session.subject verb entry, "--", entry.relativePath]
  match ← session.head with
  | some identifier => return identifier.text
  | none => throw (.git (.internal "HEAD is unborn after commit"))

/-- Adds a memory's file and commits it. -/
def addAndCommit (verb : String) (entry : MemoryEntry) : Task ExecutionError String := do
  let _ ← session.runGit ["add", "--", entry.relativePath]
  session.commit verb entry

/-- The paths that searches and comparisons are limited to. -/
def scope : String := memoriesName ++ "/"

/-- The form in which logs are printed. -/
def logFormat : String := "--format=%h %ad %s"

/-- A revision must not be read as an option. -/
def rejectOptionLike (revision : String) : Except ExecutionError Unit :=
  if revision.toList.head? = some '-' then .error (.optionLikeRevision revision) else .ok ()

/-- The commits that a log of some paths prints, none before the first commit. -/
def log (depth : Depth) (options : List String) (path : String) :
    Task ExecutionError (List Git.CommitSummary) := do
  match ← session.head with
  | none => return []
  | some _ =>
    let printed ← session.runGit
      (["log", "-n", Nat.repr depth.value, logFormat, "--date=short"] ++ options ++ ["--", path])
    return Git.commitSummaries printed.output

/-- Searches memories for a text, and the log for commits that touched it. -/
def search (query : String) (depth : Depth) : Task ExecutionError Outcome := do
  let found ← session.git ["grep", "-n", "-i", "-F", "-e", query, "--", scope] [0, 1]
  let pattern := "-G" ++ String.ofList (Git.escapePattern query.toList)
  let commits ← session.log depth ["-i", pattern] scope
  return .search query depth (Git.searchHits found.output) commits

/-- Creates a memory and commits it; a memory that cannot be committed is removed again. -/
def create (symbol : Symbol) (slug : Slug) (content : String) : Task ExecutionError Outcome :=
  session.exclusively do
    let entry ← (session.storage.create ⟨symbol, slug⟩ content).mapFailure .store
    let commit ← (session.addAndCommit "create" entry).compensate do
      (session.runGit ["reset", "-q", "--", entry.relativePath]).attempt
      (session.storage.discard entry).attempt
    return .create entry.relativePath symbol slug commit

/-- Shows a memory, or whatever else git knows by the reference. -/
def view (reference : String) : Task ExecutionError Outcome := do
  match ← session.resolve? reference with
  | some entry =>
    let text ← (session.storage.read entry).mapFailure .store
    return .view reference (some entry.relativePath) text
  | none =>
    rejectOptionLike reference
    let shown ← session.runGit ["show", reference]
    return .view reference none shown.output

/-- Gives a memory other content and commits it; if it cannot be committed the old text is put
back. -/
def update (reference content : String) : Task ExecutionError Outcome :=
  session.exclusively do
    let entry ← session.resolve reference
    let previous ← (session.storage.read entry).mapFailure .store
    let _ ← (session.storage.update entry content).mapFailure .store
    let commit ← (session.addAndCommit "update" entry).compensate do
      (session.storage.restore entry previous).attempt
      (session.runGit ["add", "--", entry.relativePath]).attempt
    return .update entry.relativePath commit

/-- Removes a memory and commits that; if it cannot be committed the memory is checked out again. -/
def delete (reference : String) : Task ExecutionError Outcome :=
  session.exclusively do
    let entry ← session.resolve reference
    let _ ← session.runGit ["rm", "-q", "--", entry.relativePath]
    let commit ← (session.commit "delete" entry).compensate
      (session.runGit ["checkout", "HEAD", "--", entry.relativePath]).attempt
    return .delete entry.relativePath commit

/-- Lists the commits that touched a path; a reference to a memory stands for its file. -/
def history (path : String) (depth : Depth) : Task ExecutionError Outcome := do
  let entry ← session.resolve? path
  let target := (entry.map MemoryEntry.relativePath).getD path
  let commits ← session.log depth [] target
  return .history target depth commits

def diff (older newer : String) : Task ExecutionError Outcome := do
  rejectOptionLike older
  rejectOptionLike newer
  let printed ← session.runGit ["diff", older, newer, "--", scope]
  return .diff older newer printed.output

def list (symbol : Option Symbol) : Task ExecutionError Outcome :=
  .observe fun view =>
    .list symbol ((session.storage.list view.files symbol).map MemoryEntry.listed)

/-- Executes a command. -/
def execute : Command → Task ExecutionError Outcome
  | .search query depth => session.search query depth
  | .create symbol slug content => session.create symbol slug content
  | .view reference => session.view reference
  | .update reference content => session.update reference content
  | .delete reference => session.delete reference
  | .history path depth => session.history path depth
  | .diff older newer => session.diff older newer
  | .list symbol => session.list symbol

end Session

namespace Response

def ofExecution : Except ExecutionError Outcome → Response
  | .ok outcome => .done outcome
  | .error error => .failed error.toCommandError

end Response

/-- Answers a line with the response to the command that it spells, which is only checked or is
executed in the repository that a path leads to. -/
def respond (check : Bool) (path line : String) : Program Response :=
  match Command.process line with
  | .error error => .done (.failed error)
  | .ok command =>
    if check then .done (.checked command)
    else
      let execution : Task ExecutionError Outcome := do
        (← Session.openAt path).execute command
      execution.run.bind fun outcome => .done (.ofExecution outcome)

end MemoryKeeper

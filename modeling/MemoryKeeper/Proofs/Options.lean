import MemoryKeeper.Proofs.Calls

/-!
# Options of git

Git reads an argument that begins with a hyphen as an option, unless it stands
behind the separator or is the value of the option before it. Text of the caller
must therefore not begin with a hyphen wherever it could be read as an option,
since an option can make git write any file.

Each kind of argument that a call may have before its separator is a case of its
own. What is then shown of a command is a matter of the calls that it makes, one
after another.
-/

namespace MemoryKeeper

namespace Git

/-- The subcommands of git that are called. -/
def subcommands : List String :=
  ["grep", "log", "show", "diff", "add", "commit", "reset", "rm", "checkout"]

/-- The options that are fixed for a subcommand. -/
def ownOptions : String → List String
  | "grep" => ["-n", "-i", "-F", "-e"]
  | "log" => ["-n", "--format=%h %ad %s", "--date=short", "-i"]
  | "commit" => ["-q", "-m"]
  | "reset" => ["-q"]
  | "rm" => ["-q"]
  | _ => []

/-- The options of a subcommand whose value is the argument behind them. -/
def valueOptions : String → List String
  | "grep" => ["-e"]
  | "commit" => ["-m"]
  | _ => []

/-- The mark behind which arguments are no options. -/
def separator : String := "--"

/-- Whether git would read an argument as an option. -/
def IsOptionLike (argument : String) : Prop :=
  argument.toList.head? = some '-'

instance (argument : String) : Decidable (IsOptionLike argument) :=
  inferInstanceAs (Decidable (_ = _))

/-- Why an argument that begins like an option may stand behind another argument. -/
inductive IsExpected (subcommand : String) (before : Option String) (argument : String) :
    Prop where
  | own (among : argument ∈ ownOptions subcommand)
  | value (behind : ∃ option ∈ valueOptions subcommand, before = some option)
  | pattern (searches : subcommand = "log") (begins : "-G".toList <+: argument.toList)

/-- Whether each of some arguments is expected or does not begin like an option, given the argument
before them. -/
def AreGuarded (subcommand : String) : Option String → List String → Prop
  | _, [] => True
  | before, argument :: rest =>
    (IsOptionLike argument → IsExpected subcommand before argument) ∧
      AreGuarded subcommand (some argument) rest

namespace AreGuarded

variable {subcommand argument : String} {before : Option String} {rest arguments : List String}

theorem nil : AreGuarded subcommand before [] :=
  trivial

theorem own (among : argument ∈ ownOptions subcommand)
    (guarded : AreGuarded subcommand (some argument) rest) :
    AreGuarded subcommand before (argument :: rest) :=
  ⟨fun _ => .own among, guarded⟩

theorem value {option : String} (among : option ∈ valueOptions subcommand)
    (guarded : AreGuarded subcommand (some argument) rest) :
    AreGuarded subcommand (some option) (argument :: rest) :=
  ⟨fun _ => .value ⟨option, among, rfl⟩, guarded⟩

theorem pattern (searches : subcommand = "log") (begins : "-G".toList <+: argument.toList)
    (guarded : AreGuarded subcommand (some argument) rest) :
    AreGuarded subcommand before (argument :: rest) :=
  ⟨fun _ => .pattern searches begins, guarded⟩

theorem plain (unlike : ¬IsOptionLike argument)
    (guarded : AreGuarded subcommand (some argument) rest) :
    AreGuarded subcommand before (argument :: rest) :=
  ⟨fun like => absurd like unlike, guarded⟩

/-- Whichever of the arguments begins like an option is expected where it stands. -/
theorem isExpected {front behind : List String} (guarded : AreGuarded subcommand before arguments)
    (split : arguments = front ++ argument :: behind) (like : IsOptionLike argument) :
    IsExpected subcommand (front.getLast?.or before) argument := by
  subst split
  induction front generalizing before with
  | nil => exact guarded.1 like
  | cons first front ih =>
      -- What stands before the argument is the last of the front, or the first if that is all.
      have found := ih guarded.2
      rw [List.getLast?_cons]
      cases last : front.getLast? with
      | none => simpa [last] using found
      | some _ => simpa [last] using found

end AreGuarded

theorem takeWhile_append_separator (options paths : List String) :
    (options ++ separator :: paths).takeWhile (· ≠ separator) <+: options := by
  rw [List.takeWhile_append, List.takeWhile_cons_of_neg (by simp), List.append_nil]
  split
  · exact List.prefix_rfl
  · exact List.takeWhile_prefix _

end Git

open Git (AreGuarded IsExpected IsOptionLike)

namespace Session

/-- Whether a process runs git with a subcommand whose arguments are guarded, up to a separator and
a path if these are at the end. -/
inductive IsGuarded (session : Session) : Git.Invocation → Prop
  | unlimited (subcommand : String) (options : List String)
      (known : subcommand ∈ Git.subcommands) (guarded : AreGuarded subcommand none options) :
      session.IsGuarded (session.invocation (subcommand :: options))
  | limited (subcommand : String) (options : List String) (path : String)
      (known : subcommand ∈ Git.subcommands) (guarded : AreGuarded subcommand none options) :
      session.IsGuarded (session.invocation (subcommand :: (options ++ [Git.separator, path])))

variable {session : Session} {invocation : Git.Invocation}

/-- What git could read as an option in a guarded process is expected where it stands. -/
theorem IsGuarded.isExpected (guarded : session.IsGuarded invocation) :
    ∃ subcommand ∈ Git.subcommands, ∃ arguments,
      invocation = session.invocation (subcommand :: arguments) ∧
      ∀ front argument behind,
        arguments.takeWhile (· ≠ Git.separator) = front ++ argument :: behind →
        IsOptionLike argument → IsExpected subcommand front.getLast? argument := by
  have within : ∀ {subcommand : String} {options begins front behind : List String}
      {argument : String}, AreGuarded subcommand none options → begins <+: options →
      begins = front ++ argument :: behind → IsOptionLike argument →
      IsExpected subcommand front.getLast? argument := by
    rintro subcommand options begins front behind argument guarded ⟨later, rfl⟩ rfl like
    have found := guarded.isExpected (List.append_assoc front (argument :: behind) later) like
    rwa [Option.or_none] at found
  cases guarded with
  | unlimited subcommand options known guarded =>
      refine ⟨subcommand, known, options, rfl, ?_⟩
      intro front argument behind split like
      exact within guarded (List.takeWhile_prefix _) split like
  | limited subcommand options path known guarded =>
      refine ⟨subcommand, known, options ++ [Git.separator, path], rfl, ?_⟩
      intro front argument behind split like
      exact within guarded (Git.takeWhile_append_separator options [path]) split like

section Commands

variable (session) (entry : MemoryEntry)

theorem issues_log (depth : Depth) {options : List String} (path : String)
    (guarded : AreGuarded "log" (some "--date=short") options) :
    (session.log depth options path).Issues session.IsGuarded := by
  have digits : ∀ value ∈ legalDepths, ¬IsOptionLike (Nat.repr value) := by decide
  have logs : session.IsGuarded (session.invocation
      (["log", "-n", Nat.repr depth.value, logFormat, "--date=short"] ++ options ++
        ["--", path])) := by
    refine .limited "log" (["-n", Nat.repr depth.value, logFormat, "--date=short"] ++ options) path
      (by decide) ?_
    refine .own (by decide) (.plain (digits _ depth.legal) ?_)
    exact .own (by decide) (.own (by decide) guarded)
  rw [log]
  refine silent_head.issues.bind fun found => ?_
  cases found with
  | none => exact Task.issues_pure []
  | some identifier =>
      refine (issues_git logs [0]).bind fun printed => ?_
      exact Task.issues_pure _

theorem issues_search (query : String) (depth : Depth) :
    (session.search query depth).Issues session.IsGuarded := by
  have greps : session.IsGuarded (session.invocation
      ["grep", "-n", "-i", "-F", "-e", query, "--", scope]) := by
    refine .limited "grep" ["-n", "-i", "-F", "-e", query] scope (by decide) ?_
    refine .own (by decide) (.own (by decide) (.own (by decide) (.own (by decide) ?_)))
    exact .value (by decide) .nil
  have begins : "-G".toList <+:
      ("-G" ++ String.ofList (Git.escapePattern query.toList)).toList := by
    rw [String.toList_append]
    exact List.prefix_append _ _
  rw [search]
  refine (issues_git greps [0, 1]).bind fun found => ?_
  refine (session.issues_log depth scope (.own (by decide) ?_)).bind fun commits => ?_
  · exact .pattern rfl begins .nil
  · exact Task.issues_pure _

theorem isGuarded_commit (verb : String) :
    session.IsGuarded (session.invocation
      ["commit", "-q", "-m", session.subject verb entry, "--", entry.relativePath]) := by
  refine .limited "commit" ["-q", "-m", session.subject verb entry] _ (by decide) ?_
  refine .own (by decide) (.own (by decide) ?_)
  exact .value (by decide) .nil

theorem isGuarded_add :
    session.IsGuarded (session.invocation ["add", "--", entry.relativePath]) :=
  .limited "add" [] entry.relativePath (by decide) .nil

theorem issues_addAndCommit (verb : String) :
    (session.addAndCommit verb entry).Issues session.IsGuarded := by
  rw [addAndCommit]
  refine (issues_git (session.isGuarded_add entry) [0]).bind fun _ => ?_
  exact issues_commit (session.isGuarded_commit entry verb)

theorem issues_create (symbol : Symbol) (slug : Slug) (content : String) :
    (session.create symbol slug content).Issues session.IsGuarded := by
  have resets : ∀ entry : MemoryEntry,
      session.IsGuarded (session.invocation ["reset", "-q", "--", entry.relativePath]) := by
    intro entry
    exact .limited "reset" ["-q"] entry.relativePath (by decide) (.own (by decide) .nil)
  rw [create]
  refine issues_exclusively ?_
  refine ((Storage.silent_create content).issues.mapFailure _).bind fun entry => ?_
  refine ((session.issues_addAndCommit entry "create").compensate ?_).bind fun commit => ?_
  · refine (issues_git (resets entry) [0]).attempt.bind fun _ => ?_
    exact (Storage.silent_change _).issues.attempt
  · exact Task.issues_pure _

theorem issues_update (reference content : String) :
    (session.update reference content).Issues session.IsGuarded := by
  rw [update]
  refine issues_exclusively ?_
  refine (silent_resolve reference).issues.bind fun entry => ?_
  refine (Storage.silent_read.issues.mapFailure _).bind fun previous => ?_
  refine ((Storage.silent_update content).issues.mapFailure _).bind fun revised => ?_
  refine ((session.issues_addAndCommit entry "update").compensate ?_).bind fun commit => ?_
  · refine (Storage.silent_write previous).issues.attempt.bind fun _ => ?_
    exact (issues_git (session.isGuarded_add entry) [0]).attempt
  · exact Task.issues_pure _

theorem issues_delete (reference : String) :
    (session.delete reference).Issues session.IsGuarded := by
  have removes : ∀ entry : MemoryEntry,
      session.IsGuarded (session.invocation ["rm", "-q", "--", entry.relativePath]) := by
    intro entry
    exact .limited "rm" ["-q"] entry.relativePath (by decide) (.own (by decide) .nil)
  have restores : ∀ entry : MemoryEntry,
      session.IsGuarded (session.invocation ["checkout", "HEAD", "--", entry.relativePath]) := by
    intro entry
    exact .limited "checkout" ["HEAD"] entry.relativePath (by decide) (.plain (by decide) .nil)
  rw [delete]
  refine issues_exclusively ?_
  refine (silent_resolve reference).issues.bind fun entry => ?_
  refine (issues_git (removes entry) [0]).bind fun _ => ?_
  refine ((issues_commit (session.isGuarded_commit entry "delete")).compensate ?_).bind
    fun commit => ?_
  · exact (issues_git (restores entry) [0]).attempt
  · exact Task.issues_pure _

theorem not_isOptionLike_of_rejectOptionLike {revision : String}
    (passed : rejectOptionLike revision = .ok ()) : ¬IsOptionLike revision := by
  intro like
  rw [IsOptionLike] at like
  rw [rejectOptionLike, if_pos like] at passed
  cases passed

theorem issues_view (reference : String) :
    (session.view reference).Issues session.IsGuarded := by
  rw [view]
  refine (silent_resolve? reference).issues.bind fun found => ?_
  cases found with
  | some entry =>
      refine (Storage.silent_read.issues.mapFailure _).bind fun text => ?_
      exact Task.issues_pure _
  | none =>
      refine Task.issues_test fun _ passed => ?_
      have unlike := not_isOptionLike_of_rejectOptionLike passed
      have shows : session.IsGuarded (session.invocation ["show", reference]) :=
        .unlimited "show" [reference] (by decide) (.plain unlike .nil)
      refine (issues_git shows [0]).bind fun shown => ?_
      exact Task.issues_pure _

theorem issues_history (path : String) (depth : Depth) :
    (session.history path depth).Issues session.IsGuarded := by
  rw [history]
  refine (silent_resolve? path).issues.bind fun entry => ?_
  refine (session.issues_log depth _ .nil).bind fun commits => ?_
  exact Task.issues_pure _

theorem issues_diff (older newer : String) :
    (session.diff older newer).Issues session.IsGuarded := by
  rw [diff]
  refine Task.issues_test fun _ passedOlder => ?_
  refine Task.issues_test fun _ passedNewer => ?_
  have olderUnlike := not_isOptionLike_of_rejectOptionLike passedOlder
  have newerUnlike := not_isOptionLike_of_rejectOptionLike passedNewer
  have compares : session.IsGuarded (session.invocation ["diff", older, newer, "--", scope]) :=
    .limited "diff" [older, newer] scope (by decide)
      (.plain olderUnlike (.plain newerUnlike .nil))
  refine (issues_git compares [0]).bind fun printed => ?_
  exact Task.issues_pure _

theorem issues_execute (command : Command) :
    (session.execute command).Issues session.IsGuarded := by
  cases command with
  | search query depth => exact session.issues_search query depth
  | create symbol slug content => exact session.issues_create symbol slug content
  | view reference => exact session.issues_view reference
  | update reference content => exact session.issues_update reference content
  | delete reference => exact session.issues_delete reference
  | history path depth => exact session.issues_history path depth
  | diff older newer => exact session.issues_diff older newer
  | list symbol => exact Task.issues_observe _

end Commands

/-- Whatever command is executed, and whatever git answers: of the arguments behind git's settings
and before the separator, those that begin with a hyphen are options of the program itself, the
pattern of a log, or the value of the option before them. -/
theorem options_are_expected (session : Session) (command : Command) (holder : Holder)
    (world : World) :
    ∀ call ∈ (session.execute command).calls holder world,
      ∃ subcommand ∈ Git.subcommands, ∃ arguments,
        call.invocation.arguments = leading session.config.repository ++ subcommand :: arguments ∧
        ∀ front argument behind,
          arguments.takeWhile (· ≠ "--") = front ++ argument :: behind →
          argument.toList.head? = some '-' →
          argument ∈ Git.ownOptions subcommand ∨
            (∃ option ∈ Git.valueOptions subcommand, front.getLast? = some option) ∨
            (subcommand = "log" ∧ "-G".toList <+: argument.toList) := by
  intro call made
  have guarded := session.issues_execute command holder world call made
  rcases guarded.isExpected with ⟨subcommand, known, arguments, asked, expected⟩
  refine ⟨subcommand, known, arguments, asked ▸ session.arguments_invocation _, ?_⟩
  intro front argument behind split like
  cases expected front argument behind split like with
  | own among => exact .inl among
  | value behindOption => exact .inr (.inl behindOption)
  | pattern searches begins => exact .inr (.inr ⟨searches, begins⟩)

/-- A search for what looks like an option hands it to git as a value. -/
theorem options_are_expected_in_search :
    ∃ call ∈ (plain.execute (.search "--output=notes" .standard)).calls 0 (.plain [] Git.idle),
      ∃ arguments,
        call.invocation.arguments = ["-c", "core.quotepath=off"] ++ "grep" :: arguments ∧
        arguments.takeWhile (· ≠ "--") = ["-n", "-i", "-F", "-e"] ++ "--output=notes" :: [] ∧
        "--output=notes".toList.head? = some '-' ∧
        ("--output=notes" ∈ Git.ownOptions "grep" ∨
          (∃ option ∈ Git.valueOptions "grep",
            ["-n", "-i", "-F", "-e"].getLast? = some option) ∨
          ("grep" = "log" ∧ "-G".toList <+: "--output=notes".toList)) := by
  have made : (⟨.plain [] Git.idle, plain.invocation
      ["grep", "-n", "-i", "-F", "-e", "--output=notes", "--", "memories/"]⟩ : Call) ∈
      (plain.execute (.search "--output=notes" .standard)).calls 0 (.plain [] Git.idle) := by
    rw [execute, search, Task.calls_bind, calls_git]
    exact List.mem_append_left _ (List.mem_singleton.mpr rfl)
  rcases options_are_expected _ _ _ _ _ made with ⟨subcommand, -, arguments, asked, expected⟩
  injection List.append_cancel_left asked with sameSubcommand sameArguments
  subst sameSubcommand sameArguments
  have split : ["-n", "-i", "-F", "-e", "--output=notes", "--", "memories/"].takeWhile (· ≠ "--") =
      ["-n", "-i", "-F", "-e"] ++ "--output=notes" :: [] := by decide
  exact ⟨_, made, _, rfl, split, by decide, expected _ _ _ split (by decide)⟩

end Session

end MemoryKeeper

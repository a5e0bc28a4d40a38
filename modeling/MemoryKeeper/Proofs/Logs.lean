import MemoryKeeper.Proofs.Searches

/-!
# What logs show

Git prints a commit as a line with two blanks of its own, one behind the hash and
one behind the date. The first two blanks of the line are taken for these, so a
commit is shown as it is exactly if its hash and its date hold no blank and its
subject does not end in a carriage return; the subject may hold any blanks and may
be missing. The commits of a log are such, so a log is shown without loss,
whether it belongs to a history or to a search.
-/

namespace MemoryKeeper

/-- A line that goes on behind a separator loses at most what it has behind it. -/
theorem Text.dropCarriageReturn_separated {separator : Char} (other : separator ≠ '\r')
    (front line : List Char) :
    dropCarriageReturn (front ++ separator :: line) =
      front ++ separator :: dropCarriageReturn line := by
  rw [dropCarriageReturn_append _ (List.cons_ne_nil _ _)]
  by_cases empty : line = []
  · rw [empty, dropCarriageReturn, List.getLast?_singleton, if_neg (by simpa using other)]
    rfl
  · rw [dropCarriageReturn_cons empty]

namespace Git

namespace CommitSummary

variable {commit : CommitSummary} {commits : List CommitSummary}

/-- The characters of a commit's line. -/
def lineChars (commit : CommitSummary) : List Char :=
  commit.hash.toList ++ ' ' :: (commit.date.toList ++ ' ' :: commit.subject.toList)

/-- A commit as git prints it. -/
def printed (commit : CommitSummary) : List Char :=
  commit.lineChars ++ ['\n']

/-- Whether a commit is one of a log: its hash and its date are words, and its subject is one line
that does not end in a blank. -/
structure IsLogged (commit : CommitSummary) : Prop where
  hash : commit.hash.toList ≠ []
  wholeHash : ∀ character ∈ commit.hash.toList, Text.isBlank character = false
  date : commit.date.toList ≠ []
  wholeDate : ∀ character ∈ commit.date.toList, Text.isBlank character = false
  subject : '\n' ∉ commit.subject.toList
  ending : commit.subject.toList.getLast?.all fun last => !Text.isBlank last

/-- A commit less a carriage return at the end of its subject. -/
def trimmed (commit : CommitSummary) : CommitSummary :=
  { commit with subject := String.ofList (Text.dropCarriageReturn commit.subject.toList) }

/-- Whether the first two blanks of a commit's line are the ones that git put there. -/
def IsSeparable (commit : CommitSummary) : Prop :=
  ' ' ∉ commit.hash.toList ∧ ' ' ∉ commit.date.toList

theorem trimmed_eq_self_iff :
    commit.trimmed = commit ↔ commit.subject.toList.getLast? ≠ some '\r' := by
  rw [← Text.dropCarriageReturn_eq_self_iff, trimmed]
  cases commit with
  | mk hash date subject => simp [← String.toList_inj]

theorem map_trimmed_eq_self_iff :
    commits.map trimmed = commits ↔
      ∀ commit ∈ commits, commit.subject.toList.getLast? ≠ some '\r' := by
  have alike : commits.map trimmed = commits.map id ↔
      ∀ commit ∈ commits, commit.trimmed = id commit := List.map_inj_left
  simpa only [List.map_id, id_eq, trimmed_eq_self_iff] using alike

theorem dropCarriageReturn_lineChars (commit : CommitSummary) :
    Text.dropCarriageReturn commit.lineChars = commit.trimmed.lineChars := by
  have blank : ' ' ≠ '\r' := by decide
  rw [lineChars, Text.dropCarriageReturn_separated blank, Text.dropCarriageReturn_separated blank,
    lineChars, trimmed, String.toList_ofList]

theorem ofLine?_lineChars (separable : commit.IsSeparable) :
    ofLine? commit.lineChars = some commit := by
  simp [ofLine?, lineChars, Text.cut_append separable.1, Text.cut_append separable.2]

/-- Every commit that is read off a line is one that can be read off its own line. -/
theorem isSeparable_of_ofLine? {line : List Char} (read : ofLine? line = some commit) :
    commit.IsSeparable := by
  simp only [ofLine?, Option.bind_eq_bind, Option.bind_eq_some_iff, Option.pure_def,
    Option.some.injEq] at read
  rcases read with ⟨afterHash, -, rfl⟩
  exact ⟨by rw [String.toList_ofList]; exact Text.separator_notMem_cut ' ' line,
    by rw [String.toList_ofList]; exact Text.separator_notMem_cut ' ' afterHash⟩

theorem IsLogged.isSeparable (isLogged : commit.IsLogged) : commit.IsSeparable := by
  have blank : Text.isBlank ' ' ≠ false := by decide
  exact ⟨fun inHash => blank (isLogged.wholeHash ' ' inHash),
    fun inDate => blank (isLogged.wholeDate ' ' inDate)⟩

theorem IsLogged.lineFeed_notMem_lineChars (isLogged : commit.IsLogged) :
    '\n' ∉ commit.lineChars := by
  have blank : Text.isBlank '\n' ≠ false := by decide
  have hash : '\n' ∉ commit.hash.toList := fun inHash => blank (isLogged.wholeHash '\n' inHash)
  have date : '\n' ∉ commit.date.toList := fun inDate => blank (isLogged.wholeDate '\n' inDate)
  simp [lineChars, hash, date, isLogged.subject]

theorem IsLogged.getLast?_subject_ne (isLogged : commit.IsLogged) :
    commit.subject.toList.getLast? ≠ some '\r' := by
  intro returned
  have ending := isLogged.ending
  rw [returned] at ending
  exact absurd ending (by decide)

end CommitSummary

section Output

variable {commits : List CommitSummary}
  (unbroken : ∀ commit ∈ commits, '\n' ∉ commit.lineChars)

include unbroken

/-- Of printed commits each is shown as its line is read, less a carriage return. -/
theorem commitSummaries_printed :
    commitSummaries (String.ofList (commits.flatMap CommitSummary.printed)) =
      commits.filterMap fun commit => CommitSummary.ofLine? commit.trimmed.lineChars := by
  have lines : Text.lines (String.ofList (commits.flatMap CommitSummary.printed)) =
      commits.map fun commit => commit.trimmed.lineChars := by
    rw [Text.lines, String.toList_ofList]
    refine (Text.linesFrom_flatMap unbroken).trans ?_
    simp only [CommitSummary.dropCarriageReturn_lineChars]
  rw [commitSummaries, lines, List.filterMap_map]
  rfl

theorem commitSummaries_printed_of_separable
    (separable : ∀ commit ∈ commits, commit.IsSeparable) :
    commitSummaries (String.ofList (commits.flatMap CommitSummary.printed)) =
      commits.map CommitSummary.trimmed := by
  rw [commitSummaries_printed unbroken, ← List.filterMap_eq_map]
  apply List.filterMap_congr
  intro commit isCommit
  exact CommitSummary.ofLine?_lineChars (separable commit isCommit)

/-- The commits of a log are shown as they are if and only if each can be read off its line and has
no carriage return at the end. -/
theorem commitSummaries_printed_eq_self_iff :
    commitSummaries (String.ofList (commits.flatMap CommitSummary.printed)) = commits ↔
      ∀ commit ∈ commits,
        commit.IsSeparable ∧ commit.subject.toList.getLast? ≠ some '\r' := by
  constructor
  · intro same
    have separable : ∀ commit ∈ commits, commit.IsSeparable := by
      intro commit isCommit
      rw [← same, commitSummaries_printed unbroken, List.mem_filterMap] at isCommit
      rcases isCommit with ⟨_, -, read⟩
      exact CommitSummary.isSeparable_of_ofLine? read
    rw [commitSummaries_printed_of_separable unbroken separable,
      CommitSummary.map_trimmed_eq_self_iff] at same
    exact fun commit isCommit => ⟨separable commit isCommit, same commit isCommit⟩
  · intro plain
    rw [commitSummaries_printed_of_separable unbroken fun commit isCommit =>
      (plain commit isCommit).1, CommitSummary.map_trimmed_eq_self_iff]
    exact fun commit isCommit => (plain commit isCommit).2

end Output

end Git

namespace Session

variable {session : Session} {holder : Holder} {world : World} {depth : Depth}
  {options : List String} {path : String} {commits : List Git.CommitSummary}

/-- The process that prints the log of a path. -/
def logging (session : Session) (depth : Depth) (options : List String) (path : String) :
    Git.Invocation :=
  session.invocation
    (["log", "-n", Nat.repr depth.value, logFormat, "--date=short"] ++ options ++ ["--", path])

/-- Where there is a commit, a log is what git prints for it. -/
theorem perform_log {identifier : ObjectId} {reply : Reply} {output : String}
    (current : session.repository.head world.files = .ok (some identifier))
    (startable : world.startFailure? (session.logging depth options path) = none)
    (answered : world.git world.exchanges (session.logging depth options path) world.files = reply)
    (succeeded : reply.code = some 0) (printed : reply.output = Text.encode output) :
    (session.log depth options path).perform holder world =
      (.ok (Git.commitSummaries output),
        world.exchanged (session.logging depth options path)) := by
  have found : session.head.perform holder world = (.ok (some identifier), world) := by
    rw [head, Task.perform_inspect, current]
    rfl
  have run : (session.runGit (["log", "-n", Nat.repr depth.value, logFormat, "--date=short"] ++
      options ++ ["--", path])).perform holder world =
        (.ok reply.completion, world.exchanged (session.logging depth options path)) :=
    perform_git_of_accepted startable answered succeeded (by decide)
  rw [log, Task.perform_bind_of_ok found, Task.perform_bind_of_ok run, Task.perform_pure,
    Reply.completion, printed, Text.decodeLenient, Text.decode?_encode, Option.getD_some]

/-- The commits of a log, printed one to a line, are shown as they are and in their order, by every
command that asks git for the log. -/
theorem log_shows_commits_in_order
    (areLogged : ∀ commit ∈ commits, commit.IsLogged) :
    Git.commitSummaries (String.ofList (commits.flatMap Git.CommitSummary.printed)) = commits ∧
    ∀ (session : Session) (holder : Holder) (world : World) (depth : Depth)
      (options : List String) (path : String) (identifier : ObjectId) (reply : Reply),
      session.repository.head world.files = .ok (some identifier) →
      world.startFailure? (session.logging depth options path) = none →
      world.git world.exchanges (session.logging depth options path) world.files = reply →
      reply.code = some 0 →
      reply.output =
        Text.encode (String.ofList (commits.flatMap Git.CommitSummary.printed)) →
      (session.log depth options path).perform holder world =
        (.ok commits, world.exchanged (session.logging depth options path)) := by
  have read :
      Git.commitSummaries (String.ofList (commits.flatMap Git.CommitSummary.printed)) = commits := by
    have unbroken : ∀ commit ∈ commits, '\n' ∉ commit.lineChars := by
      intro commit isCommit
      exact (areLogged commit isCommit).lineFeed_notMem_lineChars
    refine (Git.commitSummaries_printed_eq_self_iff unbroken).mpr ?_
    intro commit isCommit
    have isLogged := areLogged commit isCommit
    exact ⟨isLogged.isSeparable, isLogged.getLast?_subject_ne⟩
  refine ⟨read, ?_⟩
  intro session holder world depth options path identifier reply current startable answered
    succeeded printed
  rw [perform_log current startable answered succeeded printed, read]

/-- A subject with blanks before and in it, none at all, and one with a carriage return in it. -/
theorem log_shows_commits_in_order_of_blanks :
    let commits : List Git.CommitSummary :=
      [⟨"abc1234", "2026-10-19", "  memory:  create a"⟩, ⟨"def5678", "2026-10-18", ""⟩,
        ⟨"0", "1", "a\rb"⟩]
    let output := "abc1234 2026-10-19   memory:  create a\ndef5678 2026-10-18 \n0 1 a\rb\n"
    Git.commitSummaries output = commits ∧
      ∃ after, (plain.log .standard [] "memories/").perform 0
        (World.plain [] (Git.scripted fun _ => ⟨some 0, output, ""⟩)) = (.ok commits, after) := by
  intro commits output
  have areLogged : ∀ commit ∈ commits, commit.IsLogged := by
    simp only [commits, List.forall_mem_cons]
    refine ⟨?_, ?_, ?_, by simp⟩
    · exact ⟨by decide, by simp [Text.isBlank], by decide, by simp [Text.isBlank], by decide,
        by decide⟩
    · exact ⟨by decide, by simp [Text.isBlank], by decide, by simp [Text.isBlank], by decide,
        by decide⟩
    · exact ⟨by decide, by simp [Text.isBlank], by decide, by simp [Text.isBlank], by decide,
        by decide⟩
  have printed : String.ofList (commits.flatMap Git.CommitSummary.printed) = output := by decide
  rcases log_shows_commits_in_order areLogged with ⟨read, shown⟩
  rw [printed] at read shown
  have current : plain.repository.head
      (World.plain [] (Git.scripted fun _ => ⟨some 0, output, ""⟩)).files =
        .ok (some ⟨String.ofList (List.replicate Git.identifierLength '1'), by decide⟩) := by
    decide +kernel
  exact ⟨read, _, shown plain 0 _ .standard [] "memories/" _ _ current
    (by decide +kernel) rfl rfl rfl⟩

end Session

end MemoryKeeper

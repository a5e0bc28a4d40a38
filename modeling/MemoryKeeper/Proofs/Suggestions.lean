import MemoryKeeper.Proofs.Guards
import MemoryKeeper.Proofs.Spellings

/-!
# The suggestion for a duplicate

A memory is not created under a slug that another one has. What is reported then
suggests the command that updates the other one: the suggestion is read as that
command, whatever the slug is, and the slug names the very memory whose path is
reported, because no path of a memory's file is a bare slug.
-/

namespace MemoryKeeper

open MemoryKeeper.Text

theorem Token.escape_eq_self {content : List Char}
    (plain : ∀ character ∈ content, character ≠ '"' ∧ character ≠ '\\') :
    escape content = content := by
  induction content with
  | nil => rfl
  | cons character content ih =>
      rw [List.forall_mem_cons] at plain
      rw [escape] at ih ⊢
      simp [plain.1, ih plain.2]

namespace Command

theorem process_spelling_update (reference : String) {content : String}
    (short : (words content).length < 200) :
    process (Command.update reference content).spelling = .ok (.update reference content) := by
  have read : Expression.read (Command.update reference content).spelling =
      .ok (.call Operation.update.name [.string reference, .string content]) := by
    rw [Expression.read, tokenize_spelling, Expression.ofTokens_eq_ok_iff]
    exact .inr ⟨_, _, _, rfl, rfl, rfl⟩
  refine Except.bind_eq_ok_iff.mpr ⟨_, read, ?_⟩
  rw [ofExpression, Operation.ofName?_name]
  refine Except.bind_eq_ok_iff.mpr ⟨reference, rfl, ?_⟩
  refine Except.bind_eq_ok_iff.mpr ⟨content, rfl, ?_⟩
  exact Except.bind_eq_ok_iff.mpr ⟨(), checkContent_eq_ok_iff.mpr short, rfl⟩

/-- A slug stands between quotes as it is. -/
theorem spelling_update_text (slug : Slug) :
    (Command.update slug.text "New content").spelling =
      "(update \"" ++ slug.text ++ "\" \"New content\")" := by
  have plain : Token.escape slug.text.toList = slug.text.toList := by
    apply Token.escape_eq_self
    intro character present
    have allowed := Slug.isSlugChar_of_mem present
    constructor <;> rintro rfl <;> exact absurd allowed (by decide)
  have content : Token.escape "New content".toList = "New content".toList := by decide
  rw [← String.toList_inj, toList_spelling]
  simp only [Token.spelledBehind, argumentTokens, List.flatMap_cons, List.flatMap_nil,
    Token.spell, plain, content]
  simp [operation, Operation.name]

end Command

namespace Storage

variable {storage : Storage} {holder : Holder} {world after : World} {entry : MemoryEntry}
  {content slug path : String}

/-- A creation is refused as a duplicate only if the slug is taken, and then nothing is changed. -/
theorem taken_of_alreadyExists
    (refused : (storage.create entry content).perform holder world =
      (.error (.alreadyExists slug path), after)) :
    ∃ existing, storage.find? world.files entry.slug = some existing ∧
      slug = entry.slug.text ∧ path = existing.relativePath ∧ after = world := by
  rcases found : storage.find? world.files entry.slug with _ | existing
  · rw [perform_create_of_free found] at refused
    have failsBy := @failsBy_write storage entry
      (Document.new entry.symbol entry.slug content world.now).render holder world
    generalize (storage.write entry
      (Document.new entry.symbol entry.slug content world.now).render).perform holder world =
        performed at refused failsBy
    rcases performed with ⟨failure | _, between⟩
    · cases refused
      rcases failsBy _ _ rfl with ⟨error, isSystem⟩
      cases isSystem
    · cases refused
  · rw [perform_create_of_taken found] at refused
    cases refused
    exact ⟨existing, rfl, rfl, rfl, rfl⟩

/-- Whether a report names the memory that has a slug and suggests a line that is read as the update
of that memory. -/
def LeadsToMemory (storage : Storage) (tree : FileTree) (slug : Slug) (report : CommandError) :
    Prop :=
  ∃ suggestion existing,
    report = .memory ("memory '" ++ slug.text ++ "' already exists at " ++ existing.relativePath)
      (some suggestion) ∧
    Command.process suggestion = .ok (.update slug.text "New content") ∧
    storage.resolve? tree slug.text = some existing ∧ tree.isFile (storage.place existing)

theorem LeadsToMemory.congr {left right : FileTree} {slug : Slug} {report : CommandError}
    (leads : storage.LeadsToMemory left slug report)
    (same : ∀ entry, right.fileAt? (storage.place entry) = left.fileAt? (storage.place entry)) :
    storage.LeadsToMemory right slug report := by
  rcases leads with ⟨suggestion, existing, reported, processed, resolved, present⟩
  refine ⟨suggestion, existing, reported, processed, ?_, ?_⟩
  · rw [resolve?_congr same, resolved]
  · rw [FileTree.isFile_eq_isSome, same, ← FileTree.isFile_eq_isSome]
    exact present

/-- A bare slug names the memory for which a creation under it is refused. -/
theorem leadsToMemory_of_find? {tree : FileTree} {slug : Slug} {existing : MemoryEntry}
    (found : storage.find? tree slug = some existing) :
    storage.LeadsToMemory tree slug
      (ExecutionError.store (.alreadyExists slug.text existing.relativePath)).toCommandError := by
  have short : (words "New content").length < 200 := by decide
  have processed := Command.process_spelling_update slug.text short
  rw [Command.spelling_update_text] at processed
  have resolved : storage.resolve? tree slug.text = some existing := by
    rw [resolve?_eq, resolveAmong?_text]
    exact found
  exact ⟨_, existing, rfl, processed, resolved, holds_of_resolve? resolved⟩

end Storage

namespace Session

variable {session : Session} {holder : Holder} {world after : World}

/-- The failures that git is the cause of. -/
def IsGitFailure (failure : ExecutionError) : Prop :=
  ∃ error, failure = .git error

theorem failsBy_git (arguments : List String) (accepted : List Int) :
    (session.git arguments accepted).FailsBy IsGitFailure := by
  intro holder world failure after failed
  rw [perform_git] at failed
  generalize session.config.git.accept arguments accepted
    (world.start (session.invocation arguments)).1 = answer at failed
  rcases answer with error | completion
  · cases failed
    exact ⟨error, rfl⟩
  · cases failed

theorem failsBy_head : session.head.FailsBy IsGitFailure := by
  intro holder world failure after failed
  rw [head, Task.perform_inspect] at failed
  generalize session.repository.head world.files = found at failed
  rcases found with error | identifier
  · cases failed
    exact ⟨error, rfl⟩
  · cases failed

theorem failsBy_addAndCommit (verb : String) (entry : MemoryEntry) :
    (session.addAndCommit verb entry).FailsBy IsGitFailure := by
  rw [addAndCommit]
  apply (failsBy_git _ _).bind
  intro _
  rw [commit]
  apply (failsBy_git _ _).bind
  intro _
  apply failsBy_head.bind
  rintro (_ | identifier) holder world failure after failed
  · rw [Task.perform_throw] at failed
    cases failed
    exact ⟨_, rfl⟩
  · rw [Task.perform_pure] at failed
    cases failed

/-- A command that answers that a memory exists already was refused that by the store. -/
theorem refused_of_alreadyExists {symbol : Symbol} {slug : Slug} {content text path : String}
    (failed : (session.execute (.create symbol slug content)).perform holder world =
      (.error (.store (.alreadyExists text path)), after)) :
    ∃ locked, session.enter? holder world = some locked ∧
      (session.storage.create ⟨symbol, slug⟩ content).perform holder locked =
        (.error (.alreadyExists text path), locked) ∧
      after = locked.release holder session.storage.lockPlace := by
  rw [execute, create] at failed
  rcases entered : session.enter? holder world with _ | locked
  · rcases perform_exclusively_of_not_entered _ entered with
      ⟨failure, -, barred⟩ | ⟨failure, later, -, barred⟩
    · rw [barred] at failed
      cases failed
    · rw [barred] at failed
      cases failed
  · rw [perform_exclusively_of_entered entered, Task.perform_bind, Task.perform_mapFailure]
      at failed
    rcases performed : (session.storage.create ⟨symbol, slug⟩ content).perform holder locked with
      ⟨failure | entry, between⟩
    · rw [performed] at failed
      cases failed
      rcases Storage.taken_of_alreadyExists performed with ⟨existing, -, -, -, same⟩
      rw [same] at performed ⊢
      exact ⟨locked, rfl, performed, rfl⟩
    · -- Once the memory is written, only git can be the cause of a failure.
      rw [performed] at failed
      simp only [Except.mapError_ok, Task.perform_bind, Task.perform_compensate] at failed
      rcases committed : (session.addAndCommit "create" entry).perform holder between with
        ⟨failure | identifier, later⟩
      · rw [committed] at failed
        rcases failsBy_addAndCommit "create" entry holder between failure later committed with
          ⟨error, isGit⟩
        rw [isGit] at failed
        cases failed
      · rw [committed] at failed
        simp only [Task.perform_pure] at failed
        cases failed

/-- A creation is refused as a duplicate if some memory has its slug, in whatever category, and the
report of a duplicate always leads to a memory that is there, for the store's files as for the files
before and after the command. -/
theorem report_of_duplicate_leads_to_memory :
    (∀ (storage : Storage) (world : World) (entry : MemoryEntry) (symbol : Symbol)
        (content : String),
      storage.holds world.files ⟨symbol, entry.slug⟩ →
      ∃ path, (storage.create entry content).perform holder world =
        (.error (.alreadyExists entry.slug.text path), world)) ∧
    (∀ (storage : Storage) (world after : World) (entry : MemoryEntry) (content slug path : String),
      (storage.create entry content).perform holder world =
        (.error (.alreadyExists slug path), after) →
      after = world ∧ storage.LeadsToMemory world.files entry.slug
        (ExecutionError.store (.alreadyExists slug path)).toCommandError) ∧
    ∀ symbol slug content text path,
      (session.execute (.create symbol slug content)).perform holder world =
        (.error (.store (.alreadyExists text path)), after) →
      session.storage.LeadsToMemory world.files slug
          (ExecutionError.store (.alreadyExists text path)).toCommandError ∧
        session.storage.LeadsToMemory after.files slug
          (ExecutionError.store (.alreadyExists text path)).toCommandError := by
  refine ⟨?_, ?_, ?_⟩
  · intro storage world entry symbol content held
    rcases found : storage.find? world.files entry.slug with _ | existing
    · have absent := Storage.fileAt?_of_find? found symbol
      rw [Storage.holds_eq, absent] at held
      cases held
    · exact ⟨existing.relativePath, Storage.perform_create_of_taken found⟩
  · intro storage world after entry content slug path refused
    rcases Storage.taken_of_alreadyExists refused with ⟨existing, found, rfl, rfl, same⟩
    exact ⟨same, Storage.leadsToMemory_of_find? found⟩
  · intro symbol slug content text path failed
    rcases refused_of_alreadyExists failed with ⟨locked, entered, refused, rfl⟩
    rcases Storage.taken_of_alreadyExists refused with ⟨existing, found, rfl, rfl, -⟩
    have leads := Storage.leadsToMemory_of_find? found
    constructor
    · apply leads.congr
      intro entry
      exact ((enter?_spec entered).2 _ (session.storage.place_ne_lockPlace entry)).symm
    · apply leads.congr
      intro entry
      exact World.fileAt?_release holder locked (session.storage.place_ne_lockPlace entry)

/-- A slug that looks like a number and like an option, taken in a later category. -/
theorem report_of_duplicate_leads_to_memory_of_number :
    let file : FileTree := .file .empty none
    let world := World.plain [("memories", .directory [("goal", .directory [("-1.md", file)])])]
      Git.idle
    let slug : Slug := ⟨"-1", by decide⟩
    let failure : ExecutionError := .store (.alreadyExists "-1" "memories/goal/-1.md")
    ∃ after, (plain.execute (.create .insight slug "c")).perform 0 world =
        (.error failure, after) ∧
      plain.storage.LeadsToMemory world.files slug failure.toCommandError ∧
      plain.storage.LeadsToMemory after.files slug failure.toCommandError := by
  intro file world slug failure
  have failed : ((plain.execute (.create .insight slug "c")).perform 0 world).1 =
      .error failure := by
    decide +kernel
  have performed : (plain.execute (.create .insight slug "c")).perform 0 world =
      (.error failure, ((plain.execute (.create .insight slug "c")).perform 0 world).2) := by
    rw [← failed]
  exact ⟨_, performed, report_of_duplicate_leads_to_memory.2.2 _ _ _ _ _ performed⟩

end Session

end MemoryKeeper

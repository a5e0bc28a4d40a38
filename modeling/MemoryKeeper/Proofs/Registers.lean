import MemoryKeeper.Proofs.Deletions
import MemoryKeeper.Proofs.Listings
import MemoryKeeper.Proofs.Readings

/-!
# Memories as a register

Over a whole run the files of memories are a register, which holds for a slug
the document that was given to it last. A command that succeeds changes the
register as it says, and a command that fails leaves it. Listings and views are
read off the register, whatever git answered on the way.
-/

namespace MemoryKeeper

open MemoryKeeper.Path (Location)

/-- The documents of memories by their slugs. -/
structure Register where
  document? : Slug → Option Document
  slugs : ∀ {slug document}, document? slug = some document → document.slug = slug

namespace Register

variable (register : Register)

def empty : Register :=
  ⟨fun _ => none, nofun⟩

/-- The register with a document under its slug. -/
def record (document : Document) : Register where
  document? := Function.update register.document? document.slug (some document)
  slugs := by
    intro slug other found
    by_cases here : slug = document.slug
    · subst here
      rw [Function.update_self] at found
      rw [Option.some.inj found]
    · rw [Function.update_of_ne here] at found
      exact register.slugs found

/-- The register without a slug. -/
def remove (removed : Slug) : Register where
  document? := Function.update register.document? removed none
  slugs := by
    intro slug other found
    by_cases here : slug = removed
    · subst here
      rw [Function.update_self] at found
      cases found
    · rw [Function.update_of_ne here] at found
      exact register.slugs found

/-- The document of a memory. -/
def documentOf? (entry : MemoryEntry) : Option Document :=
  (register.document? entry.slug).filter (·.symbol = entry.symbol)

/-- Whether a memory is registered. -/
def holds (entry : MemoryEntry) : Bool :=
  (register.documentOf? entry).isSome

/-- The register after a command that succeeds. -/
def obey (storage : Storage) (now : Timestamp) : Command → Register
  | .create symbol slug content => register.record ⟨symbol, slug, now, now, content⟩
  | .update reference content =>
    ((storage.resolveAmong? register.holds reference).bind register.documentOf?).elim register
      fun document => register.record { document with content := content, updated := now }
  | .delete reference =>
    (storage.resolveAmong? register.holds reference).elim register
      fun entry => register.remove entry.slug
  | _ => register

/-- The register after a command with its answer. -/
def follow (storage : Storage) (now : Timestamp) (command : Command) :
    Except ExecutionError Outcome → Register
  | .ok _ => register.obey storage now command
  | .error _ => register

variable {register} {entry : MemoryEntry} {document : Document}

theorem documentOf?_eq_some_iff :
    register.documentOf? entry = some document ↔
      register.document? entry.slug = some document ∧ document.symbol = entry.symbol := by
  rw [documentOf?, Option.filter_eq_some_iff, decide_eq_true_eq]

/-- No two memories have one slug. -/
theorem documentOf?_eq_none_of_ne {other : MemoryEntry}
    (present : register.documentOf? entry = some document) (sameSlug : other.slug = entry.slug)
    (differ : other ≠ entry) :
    register.documentOf? other = none := by
  rw [Option.eq_none_iff_forall_ne_some]
  intro found isFound
  rw [documentOf?_eq_some_iff] at present isFound
  rw [sameSlug, present.1] at isFound
  rcases isFound with ⟨same, symbol⟩
  cases same
  apply differ
  cases other
  cases entry
  simp_all

theorem document?_record :
    (register.record document).document? =
      Function.update register.document? document.slug (some document) :=
  rfl

theorem document?_remove {slug : Slug} :
    (register.remove slug).document? = Function.update register.document? slug none :=
  rfl

theorem documentOf?_record (isEntry : document.symbol = entry.symbol ∧ document.slug = entry.slug)
    (alone : ∀ other : MemoryEntry, other.slug = entry.slug → other ≠ entry →
      register.documentOf? other = none) :
    (register.record document).documentOf? =
      Function.update register.documentOf? entry (some document) := by
  funext other
  by_cases here : other = entry
  · subst here
    rw [Function.update_self, documentOf?_eq_some_iff, document?_record, isEntry.2]
    exact ⟨Function.update_self _ _ _, isEntry.1⟩
  · rw [Function.update_of_ne here, documentOf?, document?_record, isEntry.2]
    by_cases sameSlug : other.slug = entry.slug
    · rw [alone other sameSlug here, sameSlug, Function.update_self, Option.filter_some, isEntry.1]
      apply if_neg
      intro sameSymbol
      apply here
      rcases other with ⟨symbol, slug⟩
      simp only [decide_eq_true_eq] at sameSymbol sameSlug
      rw [← sameSymbol, sameSlug]
    · rw [Function.update_of_ne sameSlug, documentOf?]

theorem documentOf?_remove (present : register.documentOf? entry = some document) :
    (register.remove entry.slug).documentOf? =
      Function.update register.documentOf? entry none := by
  funext other
  by_cases here : other = entry
  · subst here
    rw [Function.update_self, documentOf?, document?_remove, Function.update_self]
    rfl
  · rw [Function.update_of_ne here]
    by_cases sameSlug : other.slug = entry.slug
    · rw [documentOf?_eq_none_of_ne present sameSlug here, documentOf?, document?_remove, sameSlug,
        Function.update_self]
      rfl
    · rw [documentOf?, document?_remove, Function.update_of_ne sameSlug, documentOf?]

theorem obey_update {storage : Storage} {now : Timestamp} {reference content : String}
    (resolved : storage.resolveAmong? register.holds reference = some entry)
    (present : register.documentOf? entry = some document) :
    register.obey storage now (.update reference content) =
      register.record (document.revise content now) := by
  rw [obey, resolved, Option.bind_some, present, Option.elim_some]
  rfl

theorem obey_delete {storage : Storage} {now : Timestamp} {reference : String}
    (resolved : storage.resolveAmong? register.holds reference = some entry) :
    register.obey storage now (.delete reference) = register.remove entry.slug := by
  rw [obey, resolved, Option.elim_some]

end Register

/-- Files of memories that are those of a register. Drafts may be left over, but not under names
that no file can be made with. -/
structure Storage.Keeps (storage : Storage) (register : Register)
    (files : Location → Option ByteArray) : Prop where
  memories : ∀ entry, files (storage.place entry) =
    (register.documentOf? entry).map fun document => Text.encode document.render
  drafts : ∀ entry, files (storage.draftPlace entry) ≠ none →
    FileTree.fits (storage.draftPlace entry)

namespace Storage.Keeps

variable {storage : Storage} {register : Register} {files : Location → Option ByteArray}
  {tree : FileTree} {entry : MemoryEntry} {document : Document}

theorem of_shows (keeps : storage.Keeps register files)
    (shows : tree.Shows storage.isMemoryPlace files) : storage.Keeps register tree.fileAt? := by
  constructor
  · intro entry
    rw [shows _ (storage.shelters_isMemoryPlace.places entry), keeps.memories]
  · intro entry present
    apply keeps.drafts entry
    rwa [← shows _ (storage.shelters_isMemoryPlace.drafts entry)]

theorem update_draft {content : Option ByteArray} (keeps : storage.Keeps register files)
    (fits : content ≠ none → FileTree.fits (storage.draftPlace entry)) :
    storage.Keeps register (Function.update files (storage.draftPlace entry) content) := by
  constructor
  · intro other
    rw [Function.update_of_ne (storage.place_ne_draftPlace other entry), keeps.memories]
  · intro other present
    by_cases here : storage.draftPlace other = storage.draftPlace entry
    · rw [here] at present ⊢
      rw [Function.update_self] at present
      exact fits present
    · rw [Function.update_of_ne here] at present
      exact keeps.drafts other present

/-- A change of a memory's file is a change of the register. -/
theorem update_place {changed : Register} {content : Option Document}
    (keeps : storage.Keeps register files)
    (isChanged : changed.documentOf? = Function.update register.documentOf? entry content) :
    storage.Keeps changed (Function.update files (storage.place entry)
      (content.map fun document => Text.encode document.render)) := by
  constructor
  · intro other
    rw [isChanged]
    by_cases here : other = entry
    · subst here
      rw [Function.update_self, Function.update_self]
    · have apart : storage.place other ≠ storage.place entry := mt storage.place_injective here
      rw [Function.update_of_ne here, Function.update_of_ne apart, keeps.memories]
  · intro other present
    apply keeps.drafts other
    rwa [Function.update_of_ne (storage.place_ne_draftPlace entry other).symm] at present

theorem holds_eq (keeps : storage.Keeps register tree.fileAt?) :
    storage.holds tree = register.holds := by
  funext entry
  rw [Storage.holds_eq, keeps.memories, Option.isSome_map, Register.holds]

theorem resolve?_eq (keeps : storage.Keeps register tree.fileAt?) (reference : String) :
    storage.resolve? tree reference = storage.resolveAmong? register.holds reference := by
  rw [Storage.resolve?_eq, keeps.holds_eq]

/-- A bare slug names its memory, if it has one. -/
theorem resolve?_text (keeps : storage.Keeps register tree.fileAt?) (slug : Slug) :
    storage.resolve? tree slug.text =
      (register.document? slug).map fun document => ⟨document.symbol, slug⟩ := by
  rw [keeps.resolve?_eq, resolveAmong?_text]
  rcases present : register.document? slug with _ | document
  · rw [Option.map_none, findAmong?, List.find?_eq_none]
    intro entry isEntry
    rcases List.mem_map.mp isEntry with ⟨symbol, -, rfl⟩
    simp [Register.holds, Register.documentOf?, present]
  · have registered : register.documentOf? ⟨document.symbol, slug⟩ = some document :=
      Register.documentOf?_eq_some_iff.mpr ⟨present, rfl⟩
    rcases found : findAmong? register.holds slug with _ | other
    · rw [findAmong?, List.find?_eq_none] at found
      have absent := found ⟨document.symbol, slug⟩
        (List.mem_map.mpr ⟨document.symbol, document.symbol.mem_all, rfl⟩)
      simp [Register.holds, registered] at absent
    · rcases List.mem_map.mp (List.mem_of_find?_eq_some found) with ⟨symbol, -, rfl⟩
      have held : register.holds ⟨symbol, slug⟩ := List.find?_some found
      rw [Option.map_some]
      by_contra differ
      have absent : register.documentOf? ⟨symbol, slug⟩ = none := by
        refine Register.documentOf?_eq_none_of_ne registered rfl ?_
        intro same
        exact differ (congrArg some same)
      simp [Register.holds, absent] at held

theorem mem_list_iff (keeps : storage.Keeps register tree.fileAt?) {asked : Option Symbol} :
    entry ∈ storage.list tree asked ↔ ∃ document, register.document? entry.slug = some document ∧
      (∀ symbol, asked = some symbol → document.symbol = symbol) ∧
      entry = ⟨document.symbol, entry.slug⟩ := by
  rw [mem_list, keeps.holds_eq, Register.holds, Option.isSome_iff_exists]
  simp only [Register.documentOf?_eq_some_iff]
  constructor
  · rintro ⟨⟨document, present, sameSymbol⟩, asks⟩
    rw [← sameSymbol] at asks
    exact ⟨document, present, asks, by rw [sameSymbol]⟩
  · rintro ⟨document, present, asks, isEntry⟩
    have sameSymbol : document.symbol = entry.symbol := (congrArg MemoryEntry.symbol isEntry).symm
    rw [sameSymbol] at asks
    exact ⟨⟨document, present, sameSymbol⟩, asks⟩

theorem textOf_eq (keeps : storage.Keeps register tree.fileAt?)
    (present : register.documentOf? entry = some document) :
    storage.textOf tree entry = .ok document.render := by
  apply textOf_encode
  rw [keeps.memories, present, Option.map_some]

end Storage.Keeps

namespace Session

variable {session : Session} {register : Register} {holder : Holder} {world : World}
  {command : Command} {entry : MemoryEntry} {text : String}

/-- The text that a command writes is that of the document that the register is to hold. -/
theorem exists_document_of_intended {view : View}
    (keeps : session.storage.Keeps register view.files.fileAt?)
    (intended : session.intended? view command = some (entry, text)) :
    ∃ document, text = document.render ∧
      (register.obey session.storage view.now command).documentOf? =
        Function.update register.documentOf? entry (some document) := by
  cases command with
  | create symbol slug content =>
      rcases intended?_create intended with ⟨unused, rfl, rfl⟩
      refine ⟨_, rfl, Register.documentOf?_record ⟨rfl, rfl⟩ ?_⟩
      rintro ⟨other, slug⟩ rfl differ
      have absent := Storage.fileAt?_of_find? unused other
      rwa [keeps.memories, Option.map_eq_none_iff] at absent
  | update reference content =>
      rcases intended?_update intended with ⟨previous, document, resolved, held, read, rfl⟩
      rw [keeps.resolve?_eq] at resolved
      have registered := Storage.held_of_resolveAmong? resolved
      rw [Register.holds, Option.isSome_iff_exists] at registered
      rcases registered with ⟨known, present⟩
      rw [keeps.textOf_eq present] at held
      rw [← Except.ok.inj held, Storage.documentOf_render] at read
      rw [← Except.ok.inj read]
      rw [Register.obey_update resolved present]
      rcases Register.documentOf?_eq_some_iff.mp present with ⟨found, sameSymbol⟩
      have sameSlug : known.slug = entry.slug := register.slugs found
      refine ⟨_, rfl, Register.documentOf?_record ⟨sameSymbol, sameSlug⟩ ?_⟩
      intro other sameSlug differ
      exact Register.documentOf?_eq_none_of_ne present sameSlug differ
  | _ => simp [intended?] at intended

/-- A creation or an update, whatever it comes to, changes the files as the register is changed. -/
theorem keeps_of_writes {answer : Except ExecutionError Outcome} {after : World}
    (writes : command.operation = .create ∨ command.operation = .update)
    (sparing : Git.Spares world.git session.isPassive session.storage.isMemoryPlace)
    (keeps : session.storage.Keeps register world.files.fileAt?)
    (performed : (session.execute command).perform holder world = (answer, after)) :
    session.storage.Keeps (register.follow session.storage world.now command answer)
      after.files.fileAt? := by
  have shelters := session.storage.shelters_isMemoryPlace
  rcases entered : session.enter? holder world with _ | locked
  · rcases perform_of_barred writes entered with ⟨failure, later, failed, -, same⟩
    rw [performed] at failed
    cases failed
    apply keeps.of_shows
    intro place inside
    exact same place (shelters.ne_lockPlace inside)
  · rcases enter?_spec entered with ⟨outside, same⟩
    have sameTime : locked.now = world.now := congrArg (·.now) outside
    have keeps := keeps.of_shows fun place inside => same place (shelters.ne_lockPlace inside)
    rcases intended : session.intended? locked.toView command with _ | ⟨entry, text⟩
    · rcases fails_of_unintended writes shelters entered intended with
        ⟨failure, later, failed, same⟩
      rw [performed] at failed
      cases failed
      exact keeps.of_shows same
    · have drafted := drafted_of_intended sparing shelters entered intended
      rw [performed] at drafted
      have fits : ∀ opened, session.storage.openDraft? entry locked.files = some opened →
          FileTree.fits (session.storage.draftPlace entry) := by
        intro opened opens
        rcases Storage.draft_of_openDraft? opens with ⟨noDirectory, fitsIfNew⟩
        rcases standing : locked.files.item? (session.storage.draftPlace entry) with _ | _ | _
        · exact fitsIfNew standing
        · apply keeps.drafts entry
          rw [FileTree.fileAt?, standing]
          exact Option.some_ne_none _
        · exact absurd standing noDirectory
      cases drafted with
      | refused closed files => exact keeps.of_shows files
      | stranded opens blocked files =>
          exact (keeps.update_draft fun _ => fits _ opens).of_shows files
      | committed opens free files =>
          rcases exists_document_of_intended keeps intended with ⟨document, rfl, obeyed⟩
          rw [← sameTime]
          exact ((keeps.update_draft (absurd rfl)).update_place obeyed).of_shows files
      | undone opens free files => exact (keeps.update_draft (absurd rfl)).of_shows files
      | lost opens free present tooLong gone => exact absurd (fits _ opens) tooLong

theorem keeps_of_delete {reference : String} {answer : Except ExecutionError Outcome}
    {after : World} (relies : session.ReliesOn world.git)
    (keeps : session.storage.Keeps register world.files.fileAt?)
    (performed : (session.delete reference).perform holder world = (answer, after)) :
    session.storage.Keeps (register.follow session.storage world.now (.delete reference) answer)
      after.files.fileAt? := by
  have shelters := session.storage.shelters_isMemoryPlace
  by_cases named : ∃ locked entry, session.enter? holder world = some locked ∧
      session.storage.resolve? locked.files reference = some entry
  · rcases named with ⟨locked, entry, entered, resolved⟩
    have deleted := deleted_of_entered relies entered resolved
    have keeps := keeps.of_shows fun place inside =>
      (enter?_spec entered).2 place (shelters.ne_lockPlace inside)
    rw [keeps.resolve?_eq] at resolved
    have registered := Storage.held_of_resolveAmong? resolved
    rw [Register.holds, Option.isSome_iff_exists] at registered
    rcases registered with ⟨document, present⟩
    rw [performed] at deleted
    rcases answer with failure | outcome
    · exact keeps.of_shows deleted
    · rw [Register.follow, Register.obey_delete resolved]
      have gone : session.storage.Keeps (register.remove entry.slug) (Function.update
          locked.files.fileAt? (session.storage.place entry) none) :=
        keeps.update_place (Register.documentOf?_remove present)
      exact gone.of_shows deleted
  · have idle : ∀ locked, session.enter? holder world = some locked →
        session.storage.resolve? locked.files reference = none := by
      intro locked entered
      rcases resolved : session.storage.resolve? locked.files reference with _ | entry
      · rfl
      · exact absurd ⟨locked, entry, entered, resolved⟩ named
    rcases delete_fails idle with ⟨failure, later, failed, same⟩
    rw [performed] at failed
    cases failed
    exact keeps.of_shows same

/-- Every command changes the files of memories as it changes the register. -/
theorem keeps_step {answer : Except ExecutionError Outcome} {after : World}
    (relies : session.ReliesOn world.git)
    (keeps : session.storage.Keeps register world.files.fileAt?)
    (performed : (session.execute command).perform holder world = (answer, after)) :
    session.storage.Keeps (register.follow session.storage world.now command answer)
      after.files.fileAt? := by
  by_cases writes : command.operation = .create ∨ command.operation = .update
  · exact keeps_of_writes writes relies.passive keeps performed
  · by_cases reads : command.operation.isMutating
    · cases command with
      | delete reference => exact keeps_of_delete relies keeps performed
      | _ => simp [Command.operation, Operation.isMutating] at writes reads
    · have spared := spares_of_reads reads holder world relies.passive
      rw [performed] at spared
      have unchanged : register.follow session.storage world.now command answer = register := by
        cases answer with
        | error failure => rfl
        | ok outcome => cases command <;> first | rfl | exact absurd rfl reads
      rw [unchanged]
      exact keeps.of_shows spared.files

/-- The world and the register after one more command, executed at a point in time. -/
def advance (session : Session) (holder : Holder) (reached : World × Register)
    (step : Timestamp × Command) : World × Register :=
  let performed := (session.execute step.2).perform holder { reached.1 with now := step.1 }
  (performed.2, reached.2.follow session.storage step.1 step.2 performed.1)

/-- The world and the register after commands that were executed one after the other. -/
def course (session : Session) (holder : Holder) (world : World)
    (steps : List (Timestamp × Command)) : World × Register :=
  steps.foldl (session.advance holder) (world, .empty)

/-- A world whose memories are those of a register, with git that they can be left to. -/
structure Tracks (session : Session) (reached : World × Register) : Prop where
  relies : session.ReliesOn reached.1.git
  keeps : session.storage.Keeps reached.2 reached.1.files.fileAt?

theorem tracks_empty (relies : session.ReliesOn world.git)
    (fresh : world.files.item? (session.storage.root ++ [memoriesName]) ≠ some .directory) :
    session.Tracks (world, .empty) := by
  have nothing : ∀ kind name,
      world.files.fileAt? (session.storage.root ++ [memoriesName, kind] ++ [name]) = none := by
    intro kind name
    by_contra present
    apply fresh
    apply FileTree.isDirectory_above (List.cons_ne_nil kind [name])
    intro absent
    apply present
    have place : session.storage.root ++ [memoriesName, kind] ++ [name] =
        session.storage.root ++ [memoriesName] ++ [kind, name] := by simp
    rw [place, FileTree.fileAt?, absent]
    rfl
  refine ⟨relies, ?_, ?_⟩
  · intro entry
    rw [Storage.place_eq, nothing]
    rfl
  · intro entry present
    rw [Storage.draftPlace_eq, nothing] at present
    contradiction

theorem tracks_advance {reached : World × Register} (tracks : session.Tracks reached)
    (holder : Holder) (step : Timestamp × Command) :
    session.Tracks (session.advance holder reached step) := by
  rcases reached with ⟨world, register⟩
  rcases step with ⟨now, command⟩
  have git := (session.execute command).git_perform holder { world with now := now }
  have relies : session.ReliesOn ({ world with now := now } : World).git := tracks.relies
  rcases performed : (session.execute command).perform holder { world with now := now } with
    ⟨answer, after⟩
  simp only [advance, performed]
  rw [performed] at git
  exact ⟨git.symm ▸ relies, keeps_step relies tracks.keeps performed⟩

theorem tracks_course (holder : Holder) (relies : session.ReliesOn world.git)
    (fresh : world.files.item? (session.storage.root ++ [memoriesName]) ≠ some .directory)
    (steps : List (Timestamp × Command)) : session.Tracks (session.course holder world steps) := by
  rw [course]
  generalize start : (world, Register.empty) = reached
  have tracks : session.Tracks reached := start ▸ tracks_empty relies fresh
  clear start
  induction steps generalizing reached with
  | nil => exact tracks
  | cons step steps ih =>
      rw [List.foldl_cons]
      exact ih _ (tracks_advance tracks holder step)

theorem Tracks.perform_view {reached : World × Register} (tracks : session.Tracks reached)
    (holder : Holder) {slug : Slug} {document : Document}
    (present : reached.2.document? slug = some document) :
    (session.execute (.view slug.text)).perform holder reached.1 =
      (.ok (.view slug.text (some (⟨document.symbol, slug⟩ : MemoryEntry).relativePath)
        document.render), reached.1) := by
  have resolved : session.storage.resolve? reached.1.files slug.text =
      some ⟨document.symbol, slug⟩ := by
    rw [tracks.keeps.resolve?_text, present, Option.map_some]
  have registered : reached.2.documentOf? ⟨document.symbol, slug⟩ = some document :=
    Register.documentOf?_eq_some_iff.mpr ⟨present, rfl⟩
  rw [perform_view_of_some resolved, tracks.keeps.textOf_eq registered]
  rfl

/-- After every run the memories are those of the register. A listing shows them and no others,
each once; the view of a slug shows the written form of its document; and a command that fails
changes neither. -/
theorem answers_of_course (holder : Holder) (relies : session.ReliesOn world.git)
    (fresh : world.files.item? (session.storage.root ++ [memoriesName]) ≠ some .directory)
    (steps : List (Timestamp × Command)) :
    let reached := session.course holder world steps
    (∀ asked, ∃ listed, (session.execute (.list asked)).perform holder reached.1 =
        (.ok (.list asked listed), reached.1) ∧ listed.Nodup ∧
      ∀ memory, memory ∈ listed ↔ ∃ slug document, reached.2.document? slug = some document ∧
        (∀ symbol, asked = some symbol → document.symbol = symbol) ∧
        memory = ⟨document.symbol, slug, Vocabulary.path ⟨document.symbol, slug⟩⟩) ∧
    (∀ slug document, reached.2.document? slug = some document → document.slug = slug ∧
      ∃ text, (session.execute (.view slug.text)).perform holder reached.1 =
          (.ok (.view slug.text (some (Vocabulary.path ⟨document.symbol, slug⟩)) text),
            reached.1) ∧
        document.IsWrittenAs text) ∧
    (∀ slug, reached.2.document? slug = none →
      session.storage.resolve? reached.1.files slug.text = none) ∧
    ∀ now command failure after,
      (session.execute command).perform holder { reached.1 with now := now } =
        (.error failure, after) →
      (∀ asked, ((session.execute (.list asked)).perform holder after).1 =
        ((session.execute (.list asked)).perform holder reached.1).1) ∧
      ∀ reference, session.storage.resolve? reached.1.files reference ≠ none →
        ((session.execute (.view reference)).perform holder after).1 =
          ((session.execute (.view reference)).perform holder reached.1).1 := by
  intro reached
  have tracks : session.Tracks reached := tracks_course holder relies fresh steps
  refine ⟨?_, ?_, ?_, ?_⟩
  · intro asked
    refine ⟨_, perform_list asked, ?_, ?_⟩
    · apply (session.storage.nodup_list reached.1.files asked).map
      intro left right same
      rcases left with ⟨symbol, slug⟩
      rcases right with ⟨symbolToo, slugToo⟩
      cases same
      rfl
    · intro memory
      simp only [List.mem_map, ← Vocabulary.relativePath_eq_path]
      constructor
      · rintro ⟨entry, isListed, rfl⟩
        rcases tracks.keeps.mem_list_iff.mp isListed with ⟨document, present, asks, isEntry⟩
        exact ⟨entry.slug, document, present, asks, congrArg MemoryEntry.listed isEntry⟩
      · rintro ⟨slug, document, present, asks, rfl⟩
        exact ⟨⟨document.symbol, slug⟩,
          tracks.keeps.mem_list_iff.mpr ⟨document, present, asks, rfl⟩, rfl⟩
  · intro slug document present
    rw [← Vocabulary.relativePath_eq_path]
    exact ⟨reached.2.slugs present, document.render, tracks.perform_view holder present,
      document.isWrittenAs_render⟩
  · intro slug absent
    rw [tracks.keeps.resolve?_text, absent, Option.map_none]
  · intro now command failure after failed
    have reliesThen : session.ReliesOn ({ reached.1 with now := now } : World).git := tracks.relies
    have keeps : session.storage.Keeps reached.2 after.files.fileAt? :=
      keeps_step reliesThen tracks.keeps failed
    have same : ∀ entry, after.files.fileAt? (session.storage.place entry) =
        reached.1.files.fileAt? (session.storage.place entry) := by
      intro entry
      exact (keeps.memories entry).trans (tracks.keeps.memories entry).symm
    constructor
    · intro asked
      rw [perform_list, perform_list, Storage.list_congr (Storage.holds_congr same)]
    · intro reference named
      rcases Option.ne_none_iff_exists'.mp named with ⟨entry, resolved⟩
      have resolvedAfter : session.storage.resolve? after.files reference = some entry := by
        rw [Storage.resolve?_congr same, resolved]
      rw [perform_view_of_some resolved, perform_view_of_some resolvedAfter,
        Storage.textOf_congr (Storage.holds_of_resolve? resolvedAfter) (same entry)]

/-- A memory whose deletion git does not commit is there as it was updated before. -/
theorem view_after_refused_deletion :
    let slug : Slug := ⟨"x", by decide⟩
    let nextDay : Timestamp := ⟨⟨1970, 1, 2, by decide⟩, 0, 0, 0, 0, by decide, by decide⟩
    let document : Document := ⟨.insight, slug, .epoch, nextDay, "b"⟩
    let refuses : Git.Invocation → Bool := fun invocation =>
      invocation.arguments.contains "rm" ||
        invocation.arguments.contains (plain.subject "delete" ⟨.insight, slug⟩)
    let start := World.plain [] (plain.tending ⟨.insight, slug⟩ refuses)
    let steps := [(.epoch, .create .insight slug "a"), (nextDay, .update "x" "b"),
      (nextDay, .delete "x")]
    let text := "---\nsymbol: 💡\nslug: x\ncreated: 1970-01-01T00:00:00Z\n" ++
      "updated: 1970-01-02T00:00:00Z\n---\n\nb\n"
    ∃ world register, plain.course 0 start steps = (world, register) ∧
      world.exchanges.length = 7 ∧
      (plain.execute (.view "x")).perform 0 world =
        (.ok (.view "x" (some "memories/insight/x.md") text), world) ∧
      document.IsWrittenAs text := by
  intro slug nextDay document refuses start steps text
  have relies : plain.ReliesOn start.git := by
    apply reliesOn_tending
    intro entry _
    simp [refuses, removal, invocation, Git.Settings.invocation]
  have fresh : start.files.item? (plain.storage.root ++ [memoriesName]) ≠ some .directory := by
    rw [ne_eq, ← FileTree.isDirectory_iff]
    decide +kernel
  have evaluated : (plain.course 0 start steps).1.exchanges.length = 7 ∧
      (plain.course 0 start steps).2.document? slug = some document ∧
      ((plain.execute (.view "x")).perform 0 (plain.course 0 start steps).1).1.toOption =
        some (.view "x" (some "memories/insight/x.md") text) := by
    decide +kernel
  rcases evaluated with ⟨exchanges, present, answered⟩
  rcases (answers_of_course 0 relies fresh steps).2.1 slug document present with
    ⟨-, shown, views, written⟩
  have sameText : shown = text := by
    rw [views] at answered
    cases answered
    rfl
  subst sameText
  exact ⟨_, _, Prod.mk.eta.symm, exchanges, views, written⟩

end Session

end MemoryKeeper

import MemoryKeeper.Proofs.Documents
import MemoryKeeper.Proofs.Rollback

/-!
# Contents that come back

What a creation or an update wrote is what the memory is read as. Its content is
the given one, character for character, if and only if that holds no carriage
return before a line feed and does not end in one; every other content loses
those carriage returns on its way through the file.
-/

namespace MemoryKeeper

open MemoryKeeper.Path (Location)

namespace Storage

variable {storage : Storage}

/-- The places of memories and of their drafts. -/
def isMemoryPlace (storage : Storage) (place : Location) : Prop :=
  ∃ entry, place = storage.place entry ∨ place = storage.draftPlace entry

theorem shelters_isMemoryPlace (storage : Storage) : storage.Shelters storage.isMemoryPlace := by
  refine ⟨?_, ?_, ?_⟩
  · intro entry
    exact ⟨entry, Or.inl rfl⟩
  · intro entry
    exact ⟨entry, Or.inr rfl⟩
  · rintro ⟨entry, isPlace | isDraft⟩
    · exact storage.place_ne_lockPlace entry isPlace.symm
    · exact storage.draftPlace_ne_lockPlace entry isDraft.symm

theorem textOf_encode {tree : FileTree} {entry : MemoryEntry} {text : String}
    (present : tree.fileAt? (storage.place entry) = some (Text.encode text)) :
    storage.textOf tree entry = .ok text := by
  rw [textOf_eq present, Text.decode?_encode]

theorem documentOf_render (entry : MemoryEntry) (now : Timestamp) (document : Document) :
    documentOf entry now document.render = .ok document.stored := by
  rw [documentOf, Document.read_render]

/-- A document that was written to a memory's file is what the memory is read as. -/
theorem load_of_fileAt? {holder : Holder} {world : World} {entry : MemoryEntry}
    {document : Document}
    (present : world.files.fileAt? (storage.place entry) = some (Text.encode document.render)) :
    (storage.load entry).perform holder world = (.ok document.stored, world) := by
  rw [load, Task.perform_inspect, textOf_encode present, Except.bind, documentOf_render]

end Storage

namespace Session

variable {session : Session} {holder : Holder} {world : World}

theorem intended?_create {view : View} {symbol : Symbol} {slug : Slug} {content text : String}
    {entry : MemoryEntry}
    (intended : session.intended? view (.create symbol slug content) = some (entry, text)) :
    session.storage.find? view.files slug = none ∧ entry = ⟨symbol, slug⟩ ∧
      text = (Document.new symbol slug content view.now).render := by
  simp only [intended?] at intended
  split at intended
  · cases intended
  · next unused =>
      cases intended
      exact ⟨by simpa using unused, rfl, rfl⟩

theorem intended?_update {view : View} {reference content text : String} {entry : MemoryEntry}
    (intended : session.intended? view (.update reference content) = some (entry, text)) :
    ∃ previous document, session.storage.resolve? view.files reference = some entry ∧
      session.storage.textOf view.files entry = .ok previous ∧
      Storage.documentOf entry view.now previous = .ok document ∧
      text = (document.revise content view.now).render := by
  simp only [intended?, Option.bind_eq_bind, Option.bind_eq_some_iff, Option.pure_def,
    Option.some.injEq, Prod.mk.injEq] at intended
  rcases intended with ⟨named, resolved, previous, held, document, read, same, isText⟩
  subst same
  exact ⟨previous, document, resolved, Except.eq_ok_of_toOption held,
    Except.eq_ok_of_toOption read, isText.symm⟩

/-- The memories are the same when a command has begun. -/
theorem resolve?_of_entered {locked : World} (entered : session.enter? holder world = some locked)
    (reference : String) :
    session.storage.resolve? locked.files reference =
      session.storage.resolve? world.files reference :=
  Storage.resolve?_congr
    (fun entry => (enter?_spec entered).2 _ (session.storage.place_ne_lockPlace entry)) reference

/-- A memory that was created or updated has the given content exactly when that survives. -/
theorem loaded_content_iff
    (sparing : Git.Spares world.git (fun _ => True) session.storage.isMemoryPlace) :
    (∀ symbol slug content outcome after,
      (session.execute (.create symbol slug content)).perform holder world = (.ok outcome, after) →
      ∃ document, (session.storage.load ⟨symbol, slug⟩).perform holder after =
          (.ok document, after) ∧
        document.symbol = symbol ∧ document.slug = slug ∧
        (document.content = content ↔ Document.Survives content)) ∧
    ∀ reference content outcome after,
      (session.execute (.update reference content)).perform holder world = (.ok outcome, after) →
      ∃ entry document, session.storage.resolve? world.files reference = some entry ∧
        (session.storage.load entry).perform holder after = (.ok document, after) ∧
        (document.content = content ↔ Document.Survives content) := by
  have shelters := session.storage.shelters_isMemoryPlace
  have passive : Git.Spares world.git session.isPassive session.storage.isMemoryPlace :=
    sparing.mono fun _ _ => trivial
  constructor
  · intro symbol slug content outcome after created
    rcases committed_of_ok (Or.inl rfl) passive shelters created with
      ⟨locked, entry, text, entered, intended, files⟩
    rcases intended?_create intended with ⟨-, rfl, rfl⟩
    have present := (files _ (shelters.places _)).trans (Function.update_self _ _ _)
    exact ⟨_, Storage.load_of_fileAt? present, rfl, rfl, Document.storedContent_eq_self_iff content⟩
  · intro reference content outcome after updated
    rcases committed_of_ok (Or.inr rfl) passive shelters updated with
      ⟨locked, entry, text, entered, intended, files⟩
    rcases intended?_update intended with ⟨previous, document, resolved, -, -, rfl⟩
    have present := (files _ (shelters.places _)).trans (Function.update_self _ _ _)
    refine ⟨entry, _, ?_, Storage.load_of_fileAt? present,
      Document.storedContent_eq_self_iff content⟩
    rw [← resolve?_of_entered entered, resolved]

/-- A new memory loses a carriage return before a line feed. -/
theorem loaded_content_ne_of_lineEnding :
    let command : Command := .create .insight ⟨"x", by decide⟩ "a\r\nb"
    ∃ outcome after document,
      (plain.execute command).perform 0 (World.plain [] Git.idle) = (.ok outcome, after) ∧
      (plain.storage.load ⟨.insight, ⟨"x", by decide⟩⟩).perform 0 after = (.ok document, after) ∧
      document.content ≠ "a\r\nb" := by
  intro command
  have succeeds :
      ((plain.execute command).perform 0 (World.plain [] Git.idle)).1.toOption.isSome := by
    decide +kernel
  rcases Except.exists_ok_of_isSome succeeds with ⟨outcome, after, created⟩
  rcases (loaded_content_iff (Git.spares_idle _ _)).1 _ _ _ _ _ created with
    ⟨document, loaded, -, -, survives⟩
  refine ⟨outcome, after, document, created, loaded, ?_⟩
  intro same
  exact absurd (survives.mp same).1 (by decide)

end Session

end MemoryKeeper

import MemoryKeeper.Proofs.Sessions

/-!
# Creating and updating, step by step

A command that creates or updates a memory intends to write one text to one
file. What it comes to depends on the write and on git alone. If the write is
refused nothing happened, and if it is stranded its draft remains. If git
refuses what was written, the file is put back, and only the draft that was
there before is missing.
-/

namespace MemoryKeeper

open MemoryKeeper.Path (Location)

/-- Whether the files of a tree in a region are the given ones. -/
def FileTree.Shows (tree : FileTree) (region : Location → Prop)
    (files : Location → Option ByteArray) : Prop :=
  ∀ place, region place → tree.fileAt? place = files place

theorem FileTree.Shows.update {tree changed : FileTree} {region : Location → Prop}
    {files : Location → Option ByteArray} {place : Location} {content : Option ByteArray}
    (shows : tree.Shows region files)
    (altered : changed.fileAt? = Function.update tree.fileAt? place content) :
    changed.Shows region (Function.update files place content) := by
  intro other inside
  rw [altered]
  by_cases here : other = place
  · subst here
    rw [Function.update_self, Function.update_self]
  · rw [Function.update_of_ne here, Function.update_of_ne here, shows other inside]

/-- If only one file may have changed, none did exactly when that one did not. -/
theorem FileTree.Shows.kept_iff {before start after : FileTree} {region : Location → Prop}
    {place : Location} {content : Option ByteArray}
    (shows : after.Shows region (Function.update start.fileAt? place content))
    (inside : region place)
    (same : ∀ other, region other → start.fileAt? other = before.fileAt? other) :
    (∀ other, region other → after.fileAt? other = before.fileAt? other) ↔
      before.fileAt? place = content := by
  constructor
  · intro kept
    rw [← kept place inside, shows place inside, Function.update_self]
  · intro unchanged other within
    rw [shows other within]
    by_cases here : other = place
    · rw [here, Function.update_self, unchanged]
    · rw [Function.update_of_ne here, same other within]

theorem FileTree.Shows.of_eq {tree changed : FileTree} {region : Location → Prop}
    {files : Location → Option ByteArray} (shows : tree.Shows region files)
    (same : changed.fileAt? = tree.fileAt?) : changed.Shows region files := by
  intro place inside
  rw [same]
  exact shows place inside

theorem World.Spared.shows {calls : Git.Invocation → Prop} {region : Location → Prop}
    {before after : World} {files : Location → Option ByteArray}
    (spared : before.Spared calls region after) (shows : before.files.Shows region files) :
    after.files.Shows region files := by
  intro place inside
  exact (spared.files place inside).trans (shows place inside)

/-- A region in which all memories and drafts stand and the lock does not. -/
structure Storage.Shelters (storage : Storage) (region : Location → Prop) : Prop where
  places : ∀ entry, region (storage.place entry)
  drafts : ∀ entry, region (storage.draftPlace entry)
  noLock : ¬region storage.lockPlace

theorem Storage.Shelters.ne_lockPlace {storage : Storage} {region : Location → Prop}
    {place : Location} (shelters : storage.Shelters region) (inside : region place) :
    place ≠ storage.lockPlace := by
  rintro rfl
  exact shelters.noLock inside

theorem Storage.Shelters.release {storage : Storage} {region : Location → Prop} {world : World}
    {files : Location → Option ByteArray} (shelters : storage.Shelters region) (holder : Holder)
    (shows : world.files.Shows region files) :
    (world.release holder storage.lockPlace).files.Shows region files := by
  intro place inside
  exact (World.fileAt?_release holder world (shelters.ne_lockPlace inside)).trans
    (shows place inside)

namespace Session

variable {session : Session} {region : Location → Prop} {holder : Holder} {world locked : World}

/-- The process that removes a memory's file. -/
def removal (session : Session) (entry : MemoryEntry) : Git.Invocation :=
  session.invocation ["rm", "-q", "--", entry.relativePath]

/-- The process that puts back a memory's file that was removed. -/
def recovery (session : Session) (entry : MemoryEntry) : Git.Invocation :=
  session.invocation ["checkout", "HEAD", "--", entry.relativePath]

/-- Whether a process neither removes nor puts back a memory's file. -/
def isPassive (session : Session) (invocation : Git.Invocation) : Prop :=
  ∀ entry, invocation ≠ session.removal entry ∧ invocation ≠ session.recovery entry

theorem invocation_injective {left right : List String}
    (same : session.invocation left = session.invocation right) : left = right := by
  have sameArguments := congrArg Git.Invocation.arguments same
  exact List.append_cancel_left sameArguments

theorem isPassive_invocation {verb : String} {arguments : List String} (noRemoval : verb ≠ "rm")
    (noRecovery : verb ≠ "checkout") :
    session.isPassive (session.invocation (verb :: arguments)) := by
  intro entry
  constructor
  · intro same
    exact noRemoval (List.cons.inj (invocation_injective same)).1
  · intro same
    exact noRecovery (List.cons.inj (invocation_injective same)).1

/-- The memory and the text that a command intends to write. -/
def intended? (session : Session) (view : View) : Command → Option (MemoryEntry × String)
  | .create symbol slug content =>
    if (session.storage.find? view.files slug).isSome then none
    else some (⟨symbol, slug⟩, (Document.new symbol slug content view.now).render)
  | .update reference content => do
    let entry ← session.storage.resolve? view.files reference
    let text ← (session.storage.textOf view.files entry).toOption
    let document ← (Storage.documentOf entry view.now text).toOption
    return (entry, (document.revise content view.now).render)
  | _ => none

/-- What a command comes to that intends to write a text, as far as the files of a region show. -/
inductive Drafted (session : Session) (region : Location → Prop) (entry : MemoryEntry)
    (text : String) (before : World) : Except ExecutionError Outcome → World → Prop where
  /-- There never was a draft. -/
  | refused {failure : ExecutionError} {after : World}
      (closed : session.storage.openDraft? entry before.files = none)
      (files : after.files.Shows region before.files.fileAt?) :
      Drafted session region entry text before (.error failure) after
  /-- The draft could not be moved. -/
  | stranded {failure : ExecutionError} {opened : FileTree} {after : World}
      (opens : session.storage.openDraft? entry before.files = some opened)
      (blocked : opened.isBlocked (session.storage.place entry))
      (files : after.files.Shows region (Function.update before.files.fileAt?
        (session.storage.draftPlace entry) (some (Text.encode text)))) :
      Drafted session region entry text before (.error failure) after
  | committed {outcome : Outcome} {opened : FileTree} {after : World}
      (opens : session.storage.openDraft? entry before.files = some opened)
      (free : ¬opened.isBlocked (session.storage.place entry))
      (files : after.files.Shows region (Function.update
        (Function.update before.files.fileAt? (session.storage.draftPlace entry) none)
        (session.storage.place entry) (some (Text.encode text)))) :
      Drafted session region entry text before (.ok outcome) after
  /-- Git refused the change, and the memory's file was put back. -/
  | undone {failure : ExecutionError} {opened : FileTree} {after : World}
      (opens : session.storage.openDraft? entry before.files = some opened)
      (free : ¬opened.isBlocked (session.storage.place entry))
      (files : after.files.Shows region (Function.update before.files.fileAt?
        (session.storage.draftPlace entry) none)) :
      Drafted session region entry text before (.error failure) after
  /-- Git refused the change, and no new draft could be opened to put the file back, because the old
  one had a name that no new file can have. -/
  | lost {failure : ExecutionError} {opened : FileTree} {after : World}
      (opens : session.storage.openDraft? entry before.files = some opened)
      (free : ¬opened.isBlocked (session.storage.place entry))
      (present : before.files.fileAt? (session.storage.draftPlace entry) ≠ none)
      (tooLong : ¬FileTree.fits (session.storage.draftPlace entry))
      (gone : after.files.fileAt? (session.storage.draftPlace entry) = none) :
      Drafted session region entry text before (.error failure) after

theorem perform_discard {entry : MemoryEntry} {content : ByteArray}
    (present : world.files.fileAt? (session.storage.place entry) = some content) :
    ∃ removed, (session.storage.discard entry).perform holder world =
        (.ok (), world.withFiles removed) ∧
      removed.fileAt? = Function.update world.files.fileAt? (session.storage.place entry) none := by
  have file := FileTree.fileAt?_eq_some_iff.mp present
  have succeeds :
      ∃ removed, world.files.removeFile (session.storage.place entry) = .ok removed := by
    rw [Storage.place_eq] at file ⊢
    exact FileTree.removeFile_succeeds file
  rcases succeeds with ⟨removed, made⟩
  exact ⟨removed, Storage.perform_change_of_ok world (.removeFile _) made,
    FileTree.fileAt?_of_removeFile made⟩

/-- A new memory that was refused is removed again. -/
theorem shows_after_discard (holder : Holder) {entry : MemoryEntry} {content : ByteArray}
    {files : Location → Option ByteArray}
    (sparing : Git.Spares world.git session.isPassive region)
    (shelters : session.storage.Shelters region)
    (shows : world.files.Shows region files)
    (present : files (session.storage.place entry) = some content) :
    ((do
        (session.runGit ["reset", "-q", "--", entry.relativePath]).attempt
        (session.storage.discard entry).attempt :
      Task ExecutionError Unit).perform holder world).2.files.Shows region
        (Function.update files (session.storage.place entry) none) := by
  have reset : (session.runGit ["reset", "-q", "--", entry.relativePath]).Spares
      session.isPassive region :=
    spares_git (isPassive_invocation (by decide) (by decide)) [0]
  have spared := reset holder world sparing
  rw [Task.perform_attempts]
  have stays := spared.shows shows
  have there := (stays _ (shelters.places entry)).trans present
  rcases perform_discard there with ⟨removed, discarded, gone⟩
  rw [discarded]
  exact stays.update gone

/-- The old text of a memory whose change was refused is written again, unless no draft can be
opened for it any more. -/
theorem shows_after_restore (holder : Holder) (previous : String) {entry : MemoryEntry}
    {content : ByteArray}
    {files : Location → Option ByteArray}
    (sparing : Git.Spares world.git session.isPassive region)
    (shelters : session.storage.Shelters region)
    (shows : world.files.Shows region files)
    (present : files (session.storage.place entry) = some content)
    (cleared : files (session.storage.draftPlace entry) = none)
    (notDirectory : world.files.item? (session.storage.draftPlace entry) ≠ some .directory) :
    let remedied := ((do
        (session.storage.restore entry previous).attempt
        (session.runGit ["add", "--", entry.relativePath]).attempt :
      Task ExecutionError Unit).perform holder world).2
    remedied.files.Shows region
        (Function.update files (session.storage.place entry) (some (Text.encode previous))) ∨
      ¬FileTree.fits (session.storage.draftPlace entry) ∧ remedied.files.Shows region files := by
  intro remedied
  have add : (session.runGit ["add", "--", entry.relativePath]).Spares session.isPassive region :=
    spares_git (isPassive_invocation (by decide) (by decide)) [0]
  have there := (shows _ (shelters.places entry)).trans present
  have written : session.storage.Written entry previous world
      ((session.storage.write entry previous).perform holder world).1
      ((session.storage.write entry previous).perform holder world).2 := Storage.written_write
  have afterAdd : remedied =
      ((session.runGit ["add", "--", entry.relativePath]).perform holder
        ((session.storage.write entry previous).perform holder world).2).2 := by
    simp only [remedied, Task.perform_attempts, Storage.restore]
  rw [afterAdd]
  have git := (session.storage.write entry previous).git_perform holder world
  generalize (session.storage.write entry previous).perform holder world = performed
    at written git
  rcases performed with ⟨answer, after⟩
  simp only at written git
  have openable : FileTree.fits (session.storage.draftPlace entry) →
      ∃ opened, session.storage.openDraft? entry world.files = some opened ∧
        ¬opened.isBlocked (session.storage.place entry) := by
    intro fitting
    exact Storage.exists_openDraft? there notDirectory fun _ => fitting
  have afterwards : Git.Spares after.git session.isPassive region := git.symm ▸ sparing
  cases written with
  | refused closed same outside =>
      right
      constructor
      · intro fitting
        rcases openable fitting with ⟨opened, opens, -⟩
        rw [closed] at opens
        cases opens
      · exact (add holder after afterwards).shows (shows.of_eq same)
  | stranded opens blocked same outside =>
      exfalso
      rcases Storage.exists_openDraft? there notDirectory (Storage.draft_of_openDraft? opens).2 with
        ⟨other, opensToo, free⟩
      rw [opens] at opensToo
      cases opensToo
      exact free blocked
  | done opens free same gone outside =>
      left
      apply (add holder after afterwards).shows
      intro place inside
      rw [same]
      by_cases atPlace : place = session.storage.place entry
      · subst atPlace
        rw [Function.update_self, Function.update_self]
      · rw [Function.update_of_ne atPlace, Function.update_of_ne atPlace]
        by_cases atDraft : place = session.storage.draftPlace entry
        · subst atDraft
          rw [Function.update_self, cleared]
        · rw [Function.update_of_ne atDraft, shows place inside]

section Steps

variable {entry : MemoryEntry} {text : String} {before after : World}

/-- Only the files of the region count. -/
theorem Drafted.congr {later : World} {answer : Except ExecutionError Outcome}
    (drafted : Drafted session region entry text before answer after)
    (shelters : session.storage.Shelters region)
    (same : ∀ place, region place → later.files.fileAt? place = after.files.fileAt? place) :
    Drafted session region entry text before answer later := by
  have moved : ∀ {files}, after.files.Shows region files → later.files.Shows region files := by
    intro files shows place inside
    exact (same place inside).trans (shows place inside)
  cases drafted with
  | refused closed files => exact .refused closed (moved files)
  | stranded opens blocked files => exact .stranded opens blocked (moved files)
  | committed opens free files => exact .committed opens free (moved files)
  | undone opens free files => exact .undone opens free (moved files)
  | lost opens free present tooLong gone =>
      exact .lost opens free present tooLong ((same _ (shelters.drafts entry)).trans gone)

/-- A command goes on behind its write only if that was done. -/
theorem drafted_of_written {Result : Type} {task : Task ExecutionError Result}
    {next : Result → Task ExecutionError Outcome} {value : Result}
    {answer : Except StoreError Unit}
    (performs : task.perform holder before = ((answer.map fun _ => value).mapError .store, after))
    (written : session.storage.Written entry text before answer after)
    (continues : ∀ opened, session.storage.openDraft? entry before.files = some opened →
      ¬opened.isBlocked (session.storage.place entry) →
      after.files.fileAt? = Function.update
        (Function.update before.files.fileAt? (session.storage.draftPlace entry) none)
        (session.storage.place entry) (some (Text.encode text)) →
      after.files.item? (session.storage.draftPlace entry) = none →
      Drafted session region entry text before ((next value).perform holder after).1
        ((next value).perform holder after).2) :
    Drafted session region entry text before ((task >>= next).perform holder before).1
      ((task >>= next).perform holder before).2 := by
  rw [Task.perform_bind, performs]
  cases written with
  | refused closed files outside =>
      apply Drafted.refused closed
      intro place _
      exact congrFun files place
  | stranded opens blocked files outside =>
      apply Drafted.stranded opens blocked
      intro place _
      exact congrFun files place
  | done opens free files cleared outside => exact continues _ opens free files cleared

/-- What was written is committed, or git refused it and a remedy was tried. -/
theorem drafted_of_done {remedy : Task ExecutionError Unit} {verb : String}
    {outcome : String → Outcome} {opened : FileTree}
    (sparing : Git.Spares after.git session.isPassive region)
    (opens : session.storage.openDraft? entry before.files = some opened)
    (free : ¬opened.isBlocked (session.storage.place entry))
    (files : after.files.fileAt? = Function.update
      (Function.update before.files.fileAt? (session.storage.draftPlace entry) none)
      (session.storage.place entry) (some (Text.encode text)))
    (remedied : ∀ failure between, after.Spared session.isPassive region between →
      Drafted session region entry text before (.error failure)
        (remedy.perform holder between).2) :
    let finished := ((session.addAndCommit verb entry).compensate remedy >>=
      fun commit => pure (outcome commit) : Task ExecutionError Outcome).perform holder after
    Drafted session region entry text before finished.1 finished.2 := by
  intro finished
  have spares : (session.addAndCommit verb entry).Spares session.isPassive region :=
    spares_addAndCommit (isPassive_invocation (by decide) (by decide))
      (isPassive_invocation (by decide) (by decide))
  have spared := spares holder after sparing
  simp only [finished]
  rw [Task.perform_bind, Task.perform_compensate]
  generalize (session.addAndCommit verb entry).perform holder after = performed at spared
  rcases performed with ⟨failure | commit, between⟩
  · exact remedied failure between spared
  · simp only [Task.perform_pure]
    refine .committed opens free (spared.shows ?_)
    intro place _
    exact congrFun files place

theorem perform_resolve_of_some (holder : Holder) {reference : String}
    (resolved : session.storage.resolve? before.files reference = some entry) :
    (session.resolve reference).perform holder before = (.ok entry, before) := by
  rw [resolve, Task.perform_bind, resolve?, Task.perform_observe]
  simp only [resolved, Task.perform_pure]

theorem perform_resolve_of_none (holder : Holder) {reference : String}
    (unresolved : session.storage.resolve? before.files reference = none) :
    (session.resolve reference).perform holder before =
      (.error (.notAMemory reference), before) := by
  rw [resolve, Task.perform_bind, resolve?, Task.perform_observe]
  simp only [unresolved, Task.perform_throw]

theorem perform_read :
    ((session.storage.read entry).mapFailure ExecutionError.store).perform holder before =
      ((session.storage.textOf before.files entry).mapError .store, before) := by
  rw [Task.perform_mapFailure, Storage.read, Task.perform_inspect]

theorem perform_storage_create {content : String}
    (free : session.storage.find? before.files entry.slug = none) :
    ((session.storage.create entry content).mapFailure ExecutionError.store).perform holder before =
      let performed := (session.storage.write entry
        (Document.new entry.symbol entry.slug content before.now).render).perform holder before
      ((performed.1.map fun _ => entry).mapError .store, performed.2) := by
  rw [Task.perform_mapFailure, Storage.perform_create_of_free free]

theorem perform_storage_update {content previous : String} {document : Document}
    (held : session.storage.textOf before.files entry = .ok previous)
    (read : Storage.documentOf entry before.now previous = .ok document) :
    ((session.storage.update entry content).mapFailure ExecutionError.store).perform holder before =
      let performed := (session.storage.write entry
        (document.revise content before.now).render).perform holder before
      ((performed.1.map fun _ => document.revise content before.now).mapError .store,
        performed.2) := by
  rw [Task.perform_mapFailure, Storage.perform_update held read]

end Steps

/-- What holds inside of an exclusive task holds when the lock is given back. -/
theorem drafted_exclusively {entry : MemoryEntry} {text : String}
    {task : Task ExecutionError Outcome} (shelters : session.storage.Shelters region)
    (entered : session.enter? holder world = some locked)
    (inside : Drafted session region entry text locked (task.perform holder locked).1
      (task.perform holder locked).2) :
    Drafted session region entry text locked ((session.exclusively task).perform holder world).1
      ((session.exclusively task).perform holder world).2 := by
  rw [perform_exclusively_of_entered entered]
  generalize task.perform holder locked = performed at inside
  exact inside.congr shelters (shelters.release holder fun _ _ => rfl)

theorem git_enter? (entered : session.enter? holder world = some locked) :
    locked.git = world.git := by
  have git := session.storage.lock.git_perform holder world
  rw [(enter?_eq_some entered).2] at git
  exact git

theorem drafted_create {symbol : Symbol} {slug : Slug} {content : String}
    (sparing : Git.Spares world.git session.isPassive region)
    (shelters : session.storage.Shelters region)
    (entered : session.enter? holder world = some locked)
    (unused : session.storage.find? locked.files slug = none) :
    Drafted session region ⟨symbol, slug⟩ (Document.new symbol slug content locked.now).render
      locked
      ((session.create symbol slug content).perform holder world).1
      ((session.create symbol slug content).perform holder world).2 := by
  have written : session.storage.Written ⟨symbol, slug⟩
      (Document.new symbol slug content locked.now).render locked
      ((session.storage.write ⟨symbol, slug⟩ _).perform holder locked).1
      ((session.storage.write ⟨symbol, slug⟩ _).perform holder locked).2 := Storage.written_write
  have git := (session.storage.write ⟨symbol, slug⟩
    (Document.new symbol slug content locked.now).render).git_perform holder locked
  rw [create]
  refine drafted_exclusively shelters entered ?_
  refine drafted_of_written (perform_storage_create unused) written ?_
  intro opened opens free files cleared
  have sparingThen : Git.Spares _ session.isPassive region :=
    (git.trans (git_enter? entered)).symm ▸ sparing
  refine drafted_of_done sparingThen opens free files ?_
  intro failure between spared
  have shows : between.files.Shows region _ := spared.shows fun place _ => congrFun files place
  have removed := shows_after_discard holder (spared.git.symm ▸ sparingThen) shelters shows
    (Function.update_self _ _ _)
  apply Drafted.undone opens free
  intro place inside
  rw [removed place inside]
  -- Nothing stood at the memory's place before.
  have absent : Function.update locked.files.fileAt?
      (session.storage.draftPlace ⟨symbol, slug⟩) none (session.storage.place ⟨symbol, slug⟩) =
        none := by
    rw [Function.update_of_ne (session.storage.place_ne_draftPlace _ _)]
    exact Storage.fileAt?_of_find? unused symbol
  rw [Function.update_idem, Function.update_eq_self_iff.mpr absent.symm]

theorem drafted_update {reference content previous : String} {entry : MemoryEntry}
    {document : Document}
    (sparing : Git.Spares world.git session.isPassive region)
    (shelters : session.storage.Shelters region)
    (entered : session.enter? holder world = some locked)
    (resolved : session.storage.resolve? locked.files reference = some entry)
    (held : session.storage.textOf locked.files entry = .ok previous)
    (read : Storage.documentOf entry locked.now previous = .ok document) :
    Drafted session region entry (document.revise content locked.now).render locked
      ((session.update reference content).perform holder world).1
      ((session.update reference content).perform holder world).2 := by
  have written : session.storage.Written entry (document.revise content locked.now).render locked
      ((session.storage.write entry _).perform holder locked).1
      ((session.storage.write entry _).perform holder locked).2 := Storage.written_write
  have git := (session.storage.write entry
    (document.revise content locked.now).render).git_perform holder locked
  have sparingThen : Git.Spares _ session.isPassive region :=
    (git.trans (git_enter? entered)).symm ▸ sparing
  rw [update]
  refine drafted_exclusively shelters entered ?_
  have reads : ((session.storage.read entry).mapFailure ExecutionError.store).perform holder
      locked = (.ok previous, locked) := by
    rw [perform_read, held]
    rfl
  rw [Task.perform_bind_of_ok (perform_resolve_of_some holder resolved),
    Task.perform_bind_of_ok reads]
  refine drafted_of_written (perform_storage_update held read) written ?_
  intro opened opens free files cleared
  refine drafted_of_done sparingThen opens free files ?_
  intro failure between spared
  have apart := session.storage.place_ne_draftPlace entry entry
  have shows : between.files.Shows region _ := spared.shows fun place _ => congrFun files place
  have noDraft : Function.update (Function.update locked.files.fileAt?
      (session.storage.draftPlace entry) none) (session.storage.place entry)
      (some (Text.encode (document.revise content locked.now).render))
      (session.storage.draftPlace entry) = none := by
    rw [Function.update_of_ne apart.symm, Function.update_self]
  have notDirectory : between.files.item? (session.storage.draftPlace entry) ≠ some .directory := by
    intro present
    have before := spared.directories _ (shelters.drafts entry) present
    rw [cleared] at before
    cases before
  have restored := shows_after_restore holder previous
    (spared.git.symm ▸ sparingThen) shelters shows (Function.update_self _ _ _) noDraft notDirectory
  rcases restored with restored | ⟨tooLong, unrestored⟩
  · apply Drafted.undone opens free
    intro place inside
    rw [restored place inside]
    have present := Storage.fileAt?_of_textOf (Storage.holds_of_resolve? resolved) held
    have old : Function.update locked.files.fileAt? (session.storage.draftPlace entry) none
        (session.storage.place entry) = some (Text.encode previous) := by
      rw [Function.update_of_ne apart, present]
    rw [Function.update_idem, Function.update_eq_self_iff.mpr old.symm]
  · refine .lost opens free ?_ tooLong ((unrestored _ (shelters.drafts entry)).trans noDraft)
    intro absent
    rcases Storage.draft_of_openDraft? opens with ⟨noDirectory, room⟩
    rcases item : locked.files.item? (session.storage.draftPlace entry) with _ | _ | _
    · exact tooLong (room item)
    · rw [FileTree.fileAt?, item] at absent
      cases absent
    · exact noDirectory item

/-- What a command that intends to write a text comes to. -/
theorem drafted_of_intended {command : Command} {entry : MemoryEntry} {text : String}
    (sparing : Git.Spares world.git session.isPassive region)
    (shelters : session.storage.Shelters region)
    (entered : session.enter? holder world = some locked)
    (intended : session.intended? locked.toView command = some (entry, text)) :
    Drafted session region entry text locked
      ((session.execute command).perform holder world).1
      ((session.execute command).perform holder world).2 := by
  cases command with
  | create symbol slug content =>
      rcases unused : session.storage.find? locked.files slug with _ | existing
      · have same : ((⟨symbol, slug⟩ : MemoryEntry),
            (Document.new symbol slug content locked.now).render) = (entry, text) := by
          simpa [intended?, unused] using intended
        cases same
        exact drafted_create sparing shelters entered unused
      · simp [intended?, unused] at intended
  | update reference content =>
      simp only [intended?, Option.bind_eq_bind, Option.bind_eq_some_iff, Option.pure_def,
        Option.some.injEq] at intended
      rcases intended with ⟨named, resolved, previous, held, document, read, same⟩
      cases same
      exact drafted_update sparing shelters entered resolved (Except.eq_ok_of_toOption held)
        (Except.eq_ok_of_toOption read)
  | _ => simp [intended?] at intended

theorem fails_exclusively {task : Task ExecutionError Outcome} {failure : ExecutionError}
    (shelters : session.storage.Shelters region)
    (entered : session.enter? holder world = some locked)
    (inside : task.perform holder locked = (.error failure, locked)) :
    ∃ after, (session.exclusively task).perform holder world = (.error failure, after) ∧
      after.files.Shows region locked.files.fileAt? := by
  rw [perform_exclusively_of_entered entered, inside]
  exact ⟨_, rfl, shelters.release holder fun _ _ => rfl⟩

/-- A command that would write a memory but has nothing to write fails and leaves all files. -/
theorem fails_of_unintended {command : Command}
    (writes : command.operation = .create ∨ command.operation = .update)
    (shelters : session.storage.Shelters region)
    (entered : session.enter? holder world = some locked)
    (unintended : session.intended? locked.toView command = none) :
    ∃ failure after, (session.execute command).perform holder world = (.error failure, after) ∧
      after.files.Shows region locked.files.fileAt? := by
  cases command with
  | create symbol slug content =>
      rcases used : session.storage.find? locked.files slug with _ | existing
      · simp [intended?, used] at unintended
      · have refused : ((session.storage.create ⟨symbol, slug⟩ content).mapFailure
            ExecutionError.store).perform holder locked =
              (.error (.store (.alreadyExists slug.text existing.relativePath)), locked) := by
          have taken : session.storage.find? locked.files
              (⟨symbol, slug⟩ : MemoryEntry).slug = some existing := used
          rw [Task.perform_mapFailure, Storage.perform_create_of_taken taken]
          rfl
        exact ⟨_, fails_exclusively shelters entered (Task.perform_bind_of_error refused _)⟩
  | update reference content =>
      rcases resolved : session.storage.resolve? locked.files reference with _ | entry
      · have refused := perform_resolve_of_none holder resolved
        exact ⟨_, fails_exclusively shelters entered (Task.perform_bind_of_error refused _)⟩
      · have resolves := perform_resolve_of_some holder resolved
        rcases held : session.storage.textOf locked.files entry with failure | previous
        · have refused : ((session.storage.read entry).mapFailure ExecutionError.store).perform
              holder locked = (.error (.store failure), locked) := by
            rw [perform_read, held]
            rfl
          refine ⟨.store failure, fails_exclusively shelters entered ?_⟩
          rw [Task.perform_bind_of_ok resolves]
          exact Task.perform_bind_of_error refused _
        · have reads : ((session.storage.read entry).mapFailure ExecutionError.store).perform
              holder locked = (.ok previous, locked) := by
            rw [perform_read, held]
            rfl
          rcases read : Storage.documentOf entry locked.now previous with failure | document
          · have refused : ((session.storage.update entry content).mapFailure
                ExecutionError.store).perform holder locked =
                  (.error (.store failure), locked) := by
              rw [Task.perform_mapFailure, Storage.perform_update_of_error held read]
              rfl
            refine ⟨.store failure, fails_exclusively shelters entered ?_⟩
            rw [Task.perform_bind_of_ok resolves, Task.perform_bind_of_ok reads]
            exact Task.perform_bind_of_error refused _
          · simp [intended?, resolved, held, read, Except.toOption] at unintended
  | _ => simp [Command.operation] at writes

theorem perform_of_barred {command : Command}
    (writes : command.operation = .create ∨ command.operation = .update)
    (barred : session.enter? holder world = none) :
    ∃ failure after, (session.execute command).perform holder world = (.error failure, after) ∧
      world.SameOutside after ∧ ∀ place, place ≠ session.storage.lockPlace →
        after.files.fileAt? place = world.files.fileAt? place := by
  cases command with
  | create symbol slug content => exact perform_exclusively_of_barred barred
  | update reference content => exact perform_exclusively_of_barred barred
  | _ => simp [Command.operation] at writes

/-- A creation or an update that succeeds has written the text that it intended to. -/
theorem committed_of_ok {command : Command} {outcome : Outcome} {after : World}
    (writes : command.operation = .create ∨ command.operation = .update)
    (sparing : Git.Spares world.git session.isPassive region)
    (shelters : session.storage.Shelters region)
    (succeeded : (session.execute command).perform holder world = (.ok outcome, after)) :
    ∃ locked entry text, session.enter? holder world = some locked ∧
      session.intended? locked.toView command = some (entry, text) ∧
      after.files.Shows region (Function.update
        (Function.update locked.files.fileAt? (session.storage.draftPlace entry) none)
        (session.storage.place entry) (some (Text.encode text))) := by
  rcases entered : session.enter? holder world with _ | locked
  · rcases perform_of_barred writes entered with ⟨failure, later, performed, -⟩
    rw [succeeded] at performed
    cases performed
  · rcases intended : session.intended? locked.toView command with _ | ⟨entry, text⟩
    · rcases fails_of_unintended writes shelters entered intended with
        ⟨failure, later, performed, -⟩
      rw [succeeded] at performed
      cases performed
    · have drafted := drafted_of_intended sparing shelters entered intended
      rw [succeeded] at drafted
      cases drafted with
      | committed opens free files => exact ⟨locked, entry, text, rfl, intended, files⟩

end Session

end MemoryKeeper

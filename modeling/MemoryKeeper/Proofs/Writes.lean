import MemoryKeeper.Memory.Store
import MemoryKeeper.Proofs.Places
import MemoryKeeper.Proofs.Tasks
import MemoryKeeper.Proofs.Trees

/-!
# Writing a memory's file

A write opens the draft, fills it and moves it to its place. It comes to one of
three ends. It is refused before there is a draft, and every file is as it was;
it is stranded with a full draft that cannot be moved; or it is done, and there
is no draft any more.
-/

namespace MemoryKeeper

open MemoryKeeper.Path (Location)

/-- Whether no file can be moved to a place: a directory stands there, or nothing does and the name
is too long for a new file. -/
def FileTree.isBlocked (tree : FileTree) (place : Location) : Prop :=
  tree.item? place = some .directory ∨ tree.item? place = none ∧ ¬fits place

namespace Storage

variable {storage : Storage} {entry : MemoryEntry} {text : String} {holder : Holder}
  {world : World}

/-- The files in which a memory's draft was opened, empty, if that is possible. -/
def openDraft? (storage : Storage) (entry : MemoryEntry) (tree : FileTree) : Option FileTree :=
  ((tree.createDirectories (storage.place entry).dropLast).bind fun prepared =>
    prepared.createFile (storage.draftPlace entry)).toOption

/-- What the write of a text to a memory's file can come to. -/
inductive Written (storage : Storage) (entry : MemoryEntry) (text : String) (before : World) :
    Except StoreError Unit → World → Prop where
  | refused {failure : StoreError} {after : World}
      (closed : storage.openDraft? entry before.files = none)
      (files : after.files.fileAt? = before.files.fileAt?)
      (outside : before.SameOutside after) :
      Written storage entry text before (.error failure) after
  | stranded {failure : StoreError} {opened : FileTree} {after : World}
      (opens : storage.openDraft? entry before.files = some opened)
      (blocked : opened.isBlocked (storage.place entry))
      (files : after.files.fileAt? = Function.update before.files.fileAt?
        (storage.draftPlace entry) (some (Text.encode text)))
      (outside : before.SameOutside after) :
      Written storage entry text before (.error failure) after
  | done {opened : FileTree} {after : World}
      (opens : storage.openDraft? entry before.files = some opened)
      (free : ¬opened.isBlocked (storage.place entry))
      (files : after.files.fileAt? = Function.update
        (Function.update before.files.fileAt? (storage.draftPlace entry) none)
        (storage.place entry) (some (Text.encode text)))
      (cleared : after.files.item? (storage.draftPlace entry) = none)
      (outside : before.SameOutside after) :
      Written storage entry text before (.ok ()) after

theorem perform_change_of_ok (world : World) (edit : Edit) {files : FileTree}
    (made : edit.apply world.files = .ok files) :
    (storage.change entry edit).perform holder world = (.ok (), world.withFiles files) := by
  rw [change, Task.perform_mapFailure, Task.perform_change, World.change_of_ok world edit made]
  rfl

theorem perform_change_of_error (world : World) (edit : Edit) {failure : OsError}
    (refused : edit.apply world.files = .error failure) :
    (storage.change entry edit).perform holder world =
      (.error (.io (storage.memoryPath entry) (.os failure)), world) := by
  rw [change, Task.perform_mapFailure, Task.perform_change,
    World.change_of_error world edit refused]
  rfl

theorem openDraft?_eq_some_iff {tree opened : FileTree} :
    storage.openDraft? entry tree = some opened ↔
      ∃ prepared, tree.createDirectories (storage.place entry).dropLast = .ok prepared ∧
        prepared.createFile (storage.draftPlace entry) = .ok opened := by
  rw [openDraft?]
  rcases tree.createDirectories (storage.place entry).dropLast with failure | prepared
  · simp [Except.bind, Except.toOption]
  · simp only [Except.bind, Except.ok.injEq, exists_eq_left']
    rcases prepared.createFile (storage.draftPlace entry) <;> simp [Except.toOption]

/-- The directories that are made for a draft leave what stands at its own place. -/
theorem item?_draftPlace_of_createDirectories {tree prepared : FileTree}
    (directories : tree.createDirectories (storage.place entry).dropLast = .ok prepared) :
    prepared.item? (storage.draftPlace entry) = tree.item? (storage.draftPlace entry) := by
  have outside : ¬storage.draftPlace entry <+: (storage.place entry).dropLast := by
    intro inside
    have shorter := inside.length_le
    simp [place_eq, draftPlace_eq] at shorter
  rw [FileTree.items_of_createDirectories directories, if_neg outside]

/-- A draft is opened where no directory stands, and only under a name that fits. -/
theorem draft_of_openDraft? {tree opened : FileTree}
    (opens : storage.openDraft? entry tree = some opened) :
    tree.item? (storage.draftPlace entry) ≠ some .directory ∧
      (tree.item? (storage.draftPlace entry) = none →
        FileTree.fits (storage.draftPlace entry)) := by
  rcases openDraft?_eq_some_iff.mp opens with ⟨prepared, directories, created⟩
  rw [← item?_draftPlace_of_createDirectories directories]
  exact ⟨(FileTree.items_of_createFile created).1, FileTree.fits_of_alterFile created⟩

/-- Over a file that is there already a write can only fail for its draft. -/
theorem exists_openDraft? {tree : FileTree} {content : ByteArray}
    (present : tree.fileAt? (storage.place entry) = some content)
    (notDirectory : tree.item? (storage.draftPlace entry) ≠ some .directory)
    (room : tree.item? (storage.draftPlace entry) = none →
      FileTree.fits (storage.draftPlace entry)) :
    ∃ opened, storage.openDraft? entry tree = some opened ∧
      ¬opened.isBlocked (storage.place entry) := by
  have file := FileTree.fileAt?_eq_some_iff.mp present
  have around : tree.item? (storage.place entry).dropLast = some .directory := by
    rw [place_eq, List.dropLast_concat]
    rw [place_eq] at file
    exact FileTree.isDirectory_above (List.cons_ne_nil entry.fileName []) (by rw [file]; simp)
  rcases FileTree.createDirectories_succeeds around with ⟨prepared, directories, same⟩
  rw [← same] at file around notDirectory room
  have created : ∃ opened, prepared.createFile (storage.draftPlace entry) = .ok opened := by
    rw [place_eq, List.dropLast_concat] at around
    rw [draftPlace_eq] at notDirectory room ⊢
    exact FileTree.alterFile_succeeds around notDirectory room
  rcases created with ⟨opened, created⟩
  refine ⟨opened, openDraft?_eq_some_iff.mpr ⟨prepared, directories, created⟩, ?_⟩
  have apart := storage.place_ne_draftPlace entry entry
  rw [FileTree.isBlocked, (FileTree.items_of_createFile created).2, Function.update_of_ne apart,
    file]
  simp

/-- Once a draft is open it is filled, and its place is as it was. -/
theorem exists_filled {tree opened : FileTree} (opens : storage.openDraft? entry tree = some opened)
    (text : String) :
    ∃ prepared filled,
      tree.createDirectories (storage.place entry).dropLast = .ok prepared ∧
      prepared.createFile (storage.draftPlace entry) = .ok opened ∧
      opened.append (Text.encode text) (storage.draftPlace entry) = .ok filled ∧
      filled.item? (storage.draftPlace entry) = some (.file (Text.encode text)) ∧
      filled.item? (storage.place entry) = opened.item? (storage.place entry) ∧
      filled.fileAt? = Function.update tree.fileAt? (storage.draftPlace entry)
        (some (Text.encode text)) := by
  rcases openDraft?_eq_some_iff.mp opens with ⟨prepared, directories, created⟩
  have openedItems := (FileTree.items_of_createFile created).2
  have present : opened.item? (storage.draftPlace entry) = some (.file .empty) := by
    rw [openedItems, Function.update_self]
  have appended : ∃ filled,
      opened.append (Text.encode text) (storage.draftPlace entry) = .ok filled := by
    rw [draftPlace_eq] at present ⊢
    exact FileTree.append_succeeds present
  rcases appended with ⟨filled, appended⟩
  have filledItems : filled.item? = Function.update prepared.item? (storage.draftPlace entry)
      ((some (Text.encode text)).map .file) := by
    have bytes := FileTree.fileAt?_eq_some_iff.mpr present
    rw [FileTree.items_of_append appended, bytes, openedItems, Function.update_idem]
    simp
  refine ⟨prepared, filled, directories, created, appended, ?_, ?_, ?_⟩
  · rw [filledItems, Function.update_self]
    rfl
  · have apart := storage.place_ne_draftPlace entry entry
    rw [filledItems, openedItems, Function.update_of_ne apart, Function.update_of_ne apart]
  · rw [FileTree.fileAt?_of_items filledItems, FileTree.fileAt?_of_createDirectories directories]

/-- A full draft that cannot be moved finds its place blocked. -/
theorem isBlocked_of_rename {opened filled : FileTree} {content : ByteArray} {failure : OsError}
    (draft : filled.item? (storage.draftPlace entry) = some (.file content))
    (target : filled.item? (storage.place entry) = opened.item? (storage.place entry))
    (renamed : filled.rename (storage.draftPlace entry) (storage.place entry) = .error failure) :
    opened.isBlocked (storage.place entry) := by
  by_contra free
  rw [FileTree.isBlocked, not_or, not_and, not_not] at free
  rcases free with ⟨notDirectory, room⟩
  have apart : entry.fileName ≠ entry.draftName := by
    intro same
    have places := storage.place_ne_draftPlace entry entry
    rw [place_eq, draftPlace_eq, same] at places
    exact places rfl
  rw [← target, place_eq] at notDirectory room
  rw [draftPlace_eq] at draft
  rcases FileTree.rename_succeeds apart draft notDirectory room with ⟨moved, succeeded⟩
  rw [← place_eq, ← draftPlace_eq, renamed] at succeeded
  cases succeeded

theorem written_write :
    storage.Written entry text world
      ((storage.write entry text).perform holder world).1
      ((storage.write entry text).perform holder world).2 := by
  rw [write]
  rcases opens : storage.openDraft? entry world.files with _ | opened
  · rcases directories : world.files.createDirectories (storage.place entry).dropLast with
      failure | prepared
    · rw [Task.perform_bind_of_error
        (perform_change_of_error world (.createDirectories _) directories)]
      exact .refused opens rfl rfl
    · rcases created : prepared.createFile (storage.draftPlace entry) with failure | empty
      · rw [Task.perform_bind_of_ok (perform_change_of_ok world (.createDirectories _) directories),
          Task.perform_bind_of_error
            (perform_change_of_error (world.withFiles prepared) (.createFile _) created)]
        exact .refused opens (FileTree.fileAt?_of_createDirectories directories) rfl
      · simp [openDraft?, directories, created, Except.bind, Except.toOption] at opens
  · rcases exists_filled opens text with
      ⟨prepared, filled, directories, created, appended, draft, target, files⟩
    rw [Task.perform_bind_of_ok (perform_change_of_ok world (.createDirectories _) directories),
      Task.perform_bind_of_ok
        (perform_change_of_ok (world.withFiles prepared) (.createFile _) created),
      World.withFiles_withFiles, Task.perform_bind_of_ok
        (perform_change_of_ok (world.withFiles opened) (.append _ _) appended),
      World.withFiles_withFiles, Task.perform_bind_of_ok
        (perform_change_of_ok (world.withFiles filled) (.synchronize _) rfl),
      World.withFiles_self]
    rcases renamed :
      filled.rename (storage.draftPlace entry) (storage.place entry) with failure | moved
    · rw [perform_change_of_error (world.withFiles filled) (.rename _ _) renamed]
      exact .stranded opens (isBlocked_of_rename draft target renamed) files rfl
    · rw [perform_change_of_ok (world.withFiles filled) (.rename _ _) renamed]
      rcases FileTree.items_of_rename renamed with ⟨content, moves, notDirectory, room, items⟩
      have bytes : content = Text.encode text := by simpa [draft] using moves.symm
      have apart := storage.place_ne_draftPlace entry entry
      rw [Function.update_of_ne apart, target] at notDirectory room
      refine .done opens ?_ ?_ ?_ rfl
      · rintro (directory | ⟨absent, tooLong⟩)
        · exact notDirectory directory
        · exact tooLong (room absent)
      · have movedFiles := FileTree.fileAt?_of_move items
        rw [World.withFiles_files, movedFiles, files, Function.update_idem, bytes]
      · rw [World.withFiles_files, items, Function.update_of_ne apart.symm, Function.update_self]

theorem Written.fileAt?_of_ok {after : World}
    (written : storage.Written entry text world (.ok ()) after) :
    after.files.fileAt? (storage.place entry) = some (Text.encode text) := by
  cases written with
  | done opens free files cleared outside => rw [files, Function.update_self]

/-- A text is written over a file that is there, if a draft can be opened. -/
theorem Written.eq_ok {answer : Except StoreError Unit} {after : World} {content : ByteArray}
    (written : storage.Written entry text world answer after)
    (present : world.files.fileAt? (storage.place entry) = some content)
    (notDirectory : world.files.item? (storage.draftPlace entry) ≠ some .directory)
    (fitting : FileTree.fits (storage.draftPlace entry)) : answer = .ok () := by
  rcases exists_openDraft? present notDirectory fun _ => fitting with ⟨opened, opens, free⟩
  cases written with
  | refused closed files outside =>
      rw [closed] at opens
      cases opens
  | stranded opensToo blocked files outside =>
      rw [opens] at opensToo
      cases opensToo
      exact absurd blocked free
  | done opensToo freeToo files cleared outside => rfl

/-- The failures of a memory's file for which the operating system gave the cause. -/
def IsSystemFailure (storage : Storage) (entry : MemoryEntry) (failure : StoreError) : Prop :=
  ∃ error, failure = .io (storage.memoryPath entry) (.os error)

theorem failsBy_change (edit : Edit) :
    (storage.change entry edit).FailsBy (storage.IsSystemFailure entry) := by
  intro holder world failure after failed
  rcases made : edit.apply world.files with error | files
  · rw [perform_change_of_error world edit made] at failed
    cases failed
    exact ⟨error, rfl⟩
  · rw [perform_change_of_ok world edit made] at failed
    cases failed

/-- A write only fails where the operating system refuses one of its steps. -/
theorem failsBy_write (text : String) :
    (storage.write entry text).FailsBy (storage.IsSystemFailure entry) := by
  rw [write]
  apply (failsBy_change _).bind
  intro _
  apply (failsBy_change _).bind
  intro _
  apply (failsBy_change _).bind
  intro _
  apply (failsBy_change _).bind
  intro _
  exact failsBy_change _

section Contents

variable {content : String}

/-- A creation under a free slug comes to what its write comes to. -/
theorem perform_create_of_free (free : storage.find? world.files entry.slug = none) :
    (storage.create entry content).perform holder world =
      let performed := (storage.write entry
        (Document.new entry.symbol entry.slug content world.now).render).perform holder world
      (performed.1.map fun _ => entry, performed.2) := by
  rw [create, Task.perform_bind, Task.perform_inspect]
  simp only [free]
  rw [Task.perform_bind]
  generalize (storage.write entry
    (Document.new entry.symbol entry.slug content world.now).render).perform holder world =
      performed
  rcases performed with ⟨failure | _, after⟩
  · rfl
  · simp only [Task.perform_pure]
    rfl

theorem perform_create_of_taken {existing : MemoryEntry}
    (taken : storage.find? world.files entry.slug = some existing) :
    (storage.create entry content).perform holder world =
      (.error (.alreadyExists entry.slug.text existing.relativePath), world) := by
  rw [create, Task.perform_bind, Task.perform_inspect]
  simp only [taken]

/-- An update of a memory that is a document comes to what its write comes to. -/
theorem perform_update {previous : String} {document : Document}
    (held : storage.textOf world.files entry = .ok previous)
    (read : documentOf entry world.now previous = .ok document) :
    (storage.update entry content).perform holder world =
      let performed := (storage.write entry
        (document.revise content world.now).render).perform holder world
      (performed.1.map fun _ => document.revise content world.now, performed.2) := by
  rw [update, Task.perform_bind, Task.perform_inspect]
  simp only [held, read, Except.bind, Except.map]
  rw [Task.perform_bind]
  generalize (storage.write entry
    (document.revise content world.now).render).perform holder world = performed
  rcases performed with ⟨failure | _, after⟩
  · rfl
  · simp only [Task.perform_pure]

theorem perform_update_of_error {previous : String} {failure : StoreError}
    (held : storage.textOf world.files entry = .ok previous)
    (rejected : documentOf entry world.now previous = .error failure) :
    (storage.update entry content).perform holder world = (.error failure, world) := by
  rw [update, Task.perform_bind, Task.perform_inspect]
  simp only [held, rejected, Except.bind, Except.map]

end Contents

end Storage

end MemoryKeeper

import MemoryKeeper.Proofs.Tasks
import MemoryKeeper.Proofs.Trees

/-!
# Files that are held

A file that somebody holds stays held whatever is done elsewhere in the tree, and
nobody else can take it. So long as every change is made at another place, the
one who took the file has it until it is given back.
-/

namespace MemoryKeeper

open MemoryKeeper.Path (Location)

namespace FileTree

variable {edit : Option FileTree → Except OsError (Option FileTree)} {place other : Location}
  {tree changed : FileTree} {content : ByteArray} {holder : Option Holder}

/-- An edit at a place replaces what stands there by what it gives. -/
theorem standing?_alter (altered : alter edit place tree = .ok changed) :
    edit (tree.standing? place) = .ok (changed.standing? place) := by
  induction place generalizing tree changed with
  | nil => simp [alter] at altered
  | cons name rest ih =>
      cases tree with
      | file content holder => simp [alter] at altered
      | directory entries =>
          cases rest with
          | nil =>
              cases outcome : edit (entries.lookup name) with
              | error failure => simp [alter, outcome, Except.map] at altered
              | ok child =>
                  simp only [alter, outcome, Except.map, Except.ok.injEq] at altered
                  subst altered
                  simp [lookup_rebind, outcome]
          | cons second rest =>
              cases found : entries.lookup name with
              | none => simp [alter, found] at altered
              | some below =>
                  cases deeper : alter edit (second :: rest) below with
                  | error failure => simp [alter, found, deeper, Except.map] at altered
                  | ok child =>
                      simp only [alter, found, deeper, Except.map, Except.ok.injEq] at altered
                      subst altered
                      rw [standing?_directory, standing?_directory, found, lookup_rebind,
                        if_pos rfl]
                      exact ih deeper

/-- A file stays as it is when an edit is made that is not at or above its place. -/
theorem standing?_alter_of_apart (altered : alter edit place tree = .ok changed)
    (apart : ¬place <+: other) (present : tree.standing? other = some (.file content holder)) :
    changed.standing? other = some (.file content holder) := by
  induction place generalizing tree changed other with
  | nil => simp [alter] at altered
  | cons name rest ih =>
      cases tree with
      | file content holder => simp [alter] at altered
      | directory entries =>
          cases other with
          | nil => simp at present
          | cons first others =>
              rw [List.cons_prefix_cons, not_and] at apart
              rw [standing?_directory] at present
              cases rest with
              | nil =>
                  have elsewhere : first ≠ name := by
                    rintro rfl
                    exact apart rfl List.nil_prefix
                  cases outcome : edit (entries.lookup name) with
                  | error failure => simp [alter, outcome, Except.map] at altered
                  | ok child =>
                      simp only [alter, outcome, Except.map, Except.ok.injEq] at altered
                      subst altered
                      rw [standing?_directory, lookup_rebind, if_neg elsewhere, present]
              | cons second rest =>
                  cases found : entries.lookup name with
                  | none => simp [alter, found] at altered
                  | some below =>
                      cases deeper : alter edit (second :: rest) below with
                      | error failure => simp [alter, found, deeper, Except.map] at altered
                      | ok child =>
                          simp only [alter, found, deeper, Except.map, Except.ok.injEq] at altered
                          subst altered
                          rw [standing?_directory, lookup_rebind]
                          split
                          · next same =>
                              subst same
                              rw [found] at present
                              exact ih deeper (apart rfl) present
                          · exact present

theorem item?_of_standing? (present : tree.standing? place = some (.file content holder)) :
    tree.item? place = some (.file content) := by
  rw [item?, present]
  rfl

theorem exists_standing?_of_fileAt? (bytes : tree.fileAt? place = some content) :
    ∃ holder, tree.standing? place = some (.file content holder) := by
  rw [fileAt?, item?] at bytes
  rcases found : tree.standing? place with _ | (⟨read, holder⟩ | entries)
  · simp [found] at bytes
  · simp only [found, Option.map_some, Option.bind_some, item, Item.content?,
      Option.some.injEq] at bytes
    exact ⟨holder, by rw [bytes]⟩
  · simp [found, item, Item.content?] at bytes

/-- A file stays as it is when something else is edited that is no directory. -/
theorem standing?_alter_of_ne (altered : alter edit place tree = .ok changed)
    (noDirectory : tree.item? place ≠ some .directory) (elsewhere : other ≠ place)
    (present : tree.standing? other = some (.file content holder)) :
    changed.standing? other = some (.file content holder) := by
  apply standing?_alter_of_apart altered _ present
  rintro ⟨rest, rfl⟩
  have below : rest ≠ [] := by
    rintro rfl
    exact elsewhere (List.append_nil place)
  exact noDirectory (isDirectory_above below (by simp [item?_of_standing? present]))

/-- New directories leave every file as it is. -/
theorem standing?_createDirectories (made : createDirectories place tree = .ok changed)
    (present : tree.standing? other = some (.file content holder)) :
    changed.standing? other = some (.file content holder) := by
  induction place generalizing tree changed other with
  | nil =>
      cases tree with
      | file bytes holder => simp [createDirectories] at made
      | directory entries =>
          simp only [createDirectories, Except.ok.injEq] at made
          rw [← made, present]
  | cons name rest ih =>
      cases tree with
      | file bytes holder => simp [createDirectories] at made
      | directory entries =>
          cases other with
          | nil => simp at present
          | cons first others =>
              rw [standing?_directory] at present
              cases found : entries.lookup name with
              | none =>
                  simp only [createDirectories, found] at made
                  split at made
                  · injection made with same
                    subst same
                    have elsewhere : first ≠ name := by
                      rintro rfl
                      simp [found] at present
                    rw [standing?_directory, lookup_rebind, if_neg elsewhere, present]
                  · contradiction
              | some below =>
                  cases deeper : createDirectories rest below with
                  | error failure => simp [createDirectories, found, deeper, Except.map] at made
                  | ok child =>
                      simp only [createDirectories, found, deeper, Except.map,
                        Except.ok.injEq] at made
                      subst made
                      rw [standing?_directory, lookup_rebind]
                      split
                      · next same =>
                          subst same
                          rw [found] at present
                          exact ih deeper present
                      · exact present

/-- Whether a holder has the file at a place. -/
def IsHeld (holder : Holder) (place : Location) (tree : FileTree) : Prop :=
  ∃ content, tree.standing? place = some (.file content (some holder))

theorem IsHeld.unique {first second : Holder} (one : tree.IsHeld first place)
    (two : tree.IsHeld second place) : first = second := by
  rcases one with ⟨content, present⟩
  rcases two with ⟨other, presentToo⟩
  rw [present] at presentToo
  injection presentToo with same
  injection same with _ same
  exact Option.some.inj same

theorem isHeld_of_hold? {taker : Holder} (held : tree.hold? taker place = some changed) :
    changed.IsHeld taker place := by
  unfold hold? at held
  split at held
  · next content found =>
      rcases outcome : alterFile (fun content _ => .file content (some taker)) place tree with
        _ | edited
      · simp [outcome, Except.toOption] at held
      · have same : edited = changed := by simpa [outcome, Except.toOption] using held
        subst same
        have edited := standing?_alter outcome
        simp only [standing?, found, Except.toOption, Except.ok.injEq] at edited
        exact ⟨content, edited.symm⟩
  · contradiction

/-- A file that somebody holds cannot be taken. -/
theorem hold?_of_isHeld {taker : Holder} (holder : Holder) (held : tree.IsHeld taker place) :
    tree.hold? holder place = none := by
  rcases held with ⟨content, present⟩
  unfold hold?
  split
  · next bytes found => simp [standing?, found, Except.toOption] at present
  · rfl

/-- A file is opened as it is. -/
theorem standing?_openFile (opened : openFile place tree = .ok changed)
    (present : tree.standing? place = some (.file content holder)) :
    changed.standing? place = some (.file content holder) := by
  have edited := standing?_alter opened
  simp only [present, Except.ok.injEq] at edited
  exact edited.symm

theorem exists_standing?_of_openFile (opened : openFile place tree = .ok changed) :
    ∃ content holder, changed.standing? place = some (.file content holder) := by
  have edited := standing?_alter opened
  rcases found : tree.standing? place with _ | (⟨content, holder⟩ | entries)
  · simp only [found] at edited
    split at edited
    · injection edited with same
      exact ⟨_, _, same.symm⟩
    · cases edited
  · simp only [found, Except.ok.injEq] at edited
    exact ⟨content, holder, edited.symm⟩
  · simp [found] at edited

/-- Who holds a file that is opened held it before. -/
theorem isHeld_of_openFile {taker : Holder} (opened : openFile place tree = .ok changed)
    (held : changed.IsHeld taker place) : tree.IsHeld taker place := by
  rcases held with ⟨content, present⟩
  have edited := standing?_alter opened
  rw [present] at edited
  rcases found : tree.standing? place with _ | (⟨bytes, holder⟩ | entries)
  · simp only [found] at edited
    split at edited
    · injection edited with same
      injection same with same
      cases same
    · cases edited
  · simp only [found, Except.ok.injEq, Option.some.injEq] at edited
    exact ⟨content, by rw [found, edited]⟩
  · simp [found] at edited

theorem exists_alterFile (write : ByteArray → Option Holder → FileTree) (below : place ≠ [])
    (present : tree.standing? place = some (.file content holder)) :
    ∃ changed, alterFile write place tree = .ok changed ∧
      changed.standing? place = some (write content holder) := by
  have split := List.dropLast_concat_getLast below
  have isFile := item?_of_standing? present
  rw [← split] at isFile
  have around : tree.item? place.dropLast = some .directory := by
    apply isDirectory_above (List.cons_ne_nil (place.getLast below) [])
    rw [isFile]
    simp
  have succeeds : ∃ changed, alterFile write place tree = .ok changed := by
    rw [← split]
    exact alterFile_succeeds around (by simp [isFile]) (by simp [isFile])
  rcases succeeds with ⟨changed, altered⟩
  have edited := standing?_alter altered
  simp only [present, Except.ok.injEq] at edited
  exact ⟨changed, altered, edited.symm⟩

/-- After a holder let go of a file, the file is held only if another one held it. -/
theorem isHeld_of_release {taker letting : Holder} (below : place ≠ [])
    (held : (tree.release letting place).IsHeld taker place) :
    tree.IsHeld taker place ∧ taker ≠ letting := by
  unfold release at held
  split at held
  · next content present found =>
      have standing : tree.standing? place = some (.file content (some present)) := by
        rw [standing?, found]
        rfl
      split at held
      · rcases exists_alterFile (fun content _ => .file content none) below standing with
          ⟨changed, altered, free⟩
        simp only [altered, Except.toOption, Option.getD_some] at held
        rcases held with ⟨bytes, taken⟩
        rw [free] at taken
        cases taken
      · next other =>
          refine ⟨held, ?_⟩
          rw [held.unique ⟨content, standing⟩]
          exact other
  · next unheld =>
      rcases held with ⟨content, present⟩
      rw [standing?] at present
      rcases found : tree.find place with failure | standing
      · simp [found, Except.toOption] at present
      · simp only [found, Except.toOption, Option.some.injEq] at present
        exact absurd (found.trans (congrArg Except.ok present)) (unheld content taker)

/-- A file stays as it is when another one is moved. -/
theorem standing?_rename {source target : Location}
    (renamed : rename source target tree = .ok changed) (apart : other ≠ source ∧ other ≠ target)
    (present : tree.standing? other = some (.file content holder)) :
    changed.standing? other = some (.file content holder) := by
  rcases items_of_rename renamed with ⟨bytes, -, free, -⟩
  rw [rename] at renamed
  rcases found : tree.find source with failure | moved
  · simp [found, Bind.bind, Except.bind] at renamed
  · rcases removed : tree.removeFile source with failure | without
    · simp [found, removed, Bind.bind, Except.bind] at renamed
    · simp only [found, removed, Bind.bind, Except.bind] at renamed
      rcases items_of_removeFile removed with ⟨-, noDirectory, items⟩
      rw [← items] at free
      exact standing?_alter_of_ne renamed free apart.2
        (standing?_alter_of_ne removed noDirectory apart.1 present)

end FileTree

/-- The places of the files that a change can touch. -/
def Edit.places : Edit → List Location
  | .createDirectories _ => []
  | .createFile place => [place]
  | .append place _ => [place]
  | .synchronize _ => []
  | .rename source target => [source, target]
  | .removeFile place => [place]

namespace Edit

variable {edit : Edit} {place : Location} {tree changed : FileTree}

/-- A change touches no file but those at its places. -/
theorem fileAt?_apply (made : edit.apply tree = .ok changed) (apart : place ∉ edit.places) :
    changed.fileAt? place = tree.fileAt? place := by
  cases edit with
  | createDirectories above => rw [FileTree.fileAt?_of_createDirectories made]
  | createFile target =>
      have elsewhere : place ≠ target := by simpa [places] using apart
      rw [FileTree.fileAt?, (FileTree.items_of_createFile made).2,
        Function.update_of_ne elsewhere, FileTree.fileAt?]
  | append target content =>
      have elsewhere : place ≠ target := by simpa [places] using apart
      rw [FileTree.fileAt?, FileTree.items_of_append made, Function.update_of_ne elsewhere,
        FileTree.fileAt?]
  | synchronize target =>
      cases made
      rfl
  | rename source target =>
      have elsewhere : place ≠ source ∧ place ≠ target := by simpa [places] using apart
      rcases FileTree.items_of_rename made with ⟨content, -, -, -, items⟩
      rw [FileTree.fileAt?_of_move items, Function.update_of_ne elsewhere.2,
        Function.update_of_ne elsewhere.1]
  | removeFile target =>
      have elsewhere : place ≠ target := by simpa [places] using apart
      rw [FileTree.fileAt?_of_removeFile made, Function.update_of_ne elsewhere]

/-- A file stays as it is, and with whoever holds it, when other files are changed. -/
theorem standing?_apply {content : ByteArray} {holder : Option Holder}
    (made : edit.apply tree = .ok changed) (apart : place ∉ edit.places)
    (present : tree.standing? place = some (.file content holder)) :
    changed.standing? place = some (.file content holder) := by
  cases edit with
  | createDirectories above => exact FileTree.standing?_createDirectories made present
  | createFile target =>
      exact FileTree.standing?_alter_of_ne made (FileTree.items_of_createFile made).1
        (by simpa [places] using apart) present
  | append target added =>
      have noDirectory : tree.item? target ≠ some .directory := by
        have accepted := FileTree.standing?_alter made
        intro standing
        rw [FileTree.item?] at standing
        rcases found : tree.standing? target with _ | (⟨bytes, holder⟩ | entries)
        · simp [found] at standing
        · simp [found, FileTree.item] at standing
        · simp [found] at accepted
      exact FileTree.standing?_alter_of_ne made noDirectory (by simpa [places] using apart) present
  | synchronize target =>
      cases made
      exact present
  | rename source target =>
      exact FileTree.standing?_rename made (by simpa [places] using apart) present
  | removeFile target =>
      exact FileTree.standing?_alter_of_ne made (FileTree.items_of_removeFile made).2.1
        (by simpa [places] using apart) present

theorem isHeld_apply {taker : Holder} (made : edit.apply tree = .ok changed)
    (apart : place ∉ edit.places) (held : tree.IsHeld taker place) :
    changed.IsHeld taker place := by
  rcases held with ⟨content, present⟩
  exact ⟨content, standing?_apply made apart present⟩

/-- A file that somebody holds was held before other files were changed. -/
theorem isHeld_of_apply {taker : Holder} (made : edit.apply tree = .ok changed)
    (apart : place ∉ edit.places) (held : changed.IsHeld taker place) :
    tree.IsHeld taker place := by
  rcases held with ⟨content, present⟩
  have bytes : tree.fileAt? place = some content := by
    rw [← fileAt?_apply made apart, FileTree.fileAt?, FileTree.item?_of_standing? present]
    rfl
  rcases FileTree.exists_standing?_of_fileAt? bytes with ⟨holder, standing⟩
  have later := standing?_apply made apart standing
  rw [present] at later
  injection later with same
  injection same with _ same
  exact ⟨content, by rw [standing, same]⟩

end Edit

/-- Who holds which file does not change with new directories. -/
theorem FileTree.isHeld_iff_of_createDirectories {above place : Location}
    {tree changed : FileTree} {taker : Holder}
    (made : tree.createDirectories above = .ok changed) :
    changed.IsHeld taker place ↔ tree.IsHeld taker place := by
  have apart : place ∉ (Edit.createDirectories above).places := List.not_mem_nil
  have applied : (Edit.createDirectories above).apply tree = .ok changed := made
  exact ⟨Edit.isHeld_of_apply applied apart, Edit.isHeld_apply applied apart⟩

namespace World

variable {place : Location} {world after : World} {holder taker : Holder}

theorem fileAt?_change {edit : Edit} (apart : place ∉ edit.places) :
    (world.change edit).2.files.fileAt? place = world.files.fileAt? place := by
  rcases made : edit.apply world.files with failure | files
  · rw [change_of_error world edit made]
  · rw [change_of_ok world edit made]
    exact Edit.fileAt?_apply made apart

theorem isHeld_change {edit : Edit} (apart : place ∉ edit.places)
    (held : world.files.IsHeld taker place) :
    (world.change edit).2.files.IsHeld taker place := by
  rcases made : edit.apply world.files with failure | files
  · rw [change_of_error world edit made]
    exact held
  · rw [change_of_ok world edit made]
    exact Edit.isHeld_apply made apart held

/-- Who takes a lock has it. -/
theorem isHeld_of_acquire (taken : world.acquire holder place = (.ok true, after)) :
    after.files.IsHeld holder place := by
  rcases opened : world.files.openFile place with failure | files
  · simp [acquire, opened] at taken
  · rcases held : files.hold? holder place with _ | changed
    · simp [acquire, opened, held] at taken
    · simp only [acquire, opened, held, Prod.mk.injEq, true_and] at taken
      rw [← taken]
      exact FileTree.isHeld_of_hold? held

/-- A lock that somebody has stays with that one, whoever else tries to take it. -/
theorem acquire_of_isHeld (held : world.files.IsHeld taker place) :
    (world.acquire holder place).1 ≠ .ok true ∧
      (world.acquire holder place).2.files.IsHeld taker place := by
  rcases held with ⟨content, present⟩
  rcases opened : world.files.openFile place with failure | files
  · simp only [acquire, opened]
    exact ⟨by simp, content, present⟩
  · have same := FileTree.standing?_openFile opened present
    have refused := FileTree.hold?_of_isHeld holder ⟨content, same⟩
    simp only [acquire, opened, refused]
    exact ⟨by simp, content, same⟩

/-- Who has a file after somebody tried to take it had it before or has just taken it. -/
theorem isHeld_before_acquire (held : (world.acquire holder place).2.files.IsHeld taker place) :
    world.files.IsHeld taker place ∨
      taker = holder ∧ (world.acquire holder place).1 = .ok true := by
  rcases opened : world.files.openFile place with failure | files
  · simp only [acquire, opened] at held
    exact .inl held
  · rcases taken : files.hold? holder place with _ | changed
    · simp only [acquire, opened, taken] at held
      exact .inl (FileTree.isHeld_of_openFile opened held)
    · simp only [acquire, opened, taken] at held ⊢
      exact .inr ⟨held.unique (FileTree.isHeld_of_hold? taken), trivial⟩

/-- A lock is refused only because somebody has it. -/
theorem isHeld_of_refused (refused : (world.acquire holder place).1 = .ok false) :
    ∃ taker, world.files.IsHeld taker place := by
  rcases opened : world.files.openFile place with failure | files
  · simp [acquire, opened] at refused
  · have below : place ≠ [] := by
      rintro rfl
      cases opened
    rcases FileTree.exists_standing?_of_openFile opened with ⟨content, _ | present, standing⟩
    · -- nobody has the opened file, so taking it succeeds
      rcases FileTree.exists_alterFile (fun content _ => .file content (some holder)) below
        standing with ⟨changed, altered, -⟩
      have found : files.find place = .ok (.file content none) := by
        apply Except.eq_ok_of_toOption
        exact standing
      simp [acquire, opened, FileTree.hold?, found, altered, Except.toOption] at refused
    · exact ⟨present, FileTree.isHeld_of_openFile opened ⟨content, standing⟩⟩

/-- A change elsewhere gives a file to nobody. -/
theorem isHeld_before_change {edit : Edit} (apart : place ∉ edit.places)
    (held : (world.change edit).2.files.IsHeld taker place) : world.files.IsHeld taker place := by
  rcases made : edit.apply world.files with failure | files
  · rw [change_of_error world edit made] at held
    exact held
  · rw [change_of_ok world edit made] at held
    exact Edit.isHeld_of_apply made apart held

end World

end MemoryKeeper

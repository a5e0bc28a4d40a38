import MemoryKeeper.Proofs.Interruptions
import MemoryKeeper.Proofs.Sights

/-!
# Writes that are broken off

Wherever a write stops, a memory's file is what it was before or holds the whole
new text. Up to the move of the draft only the draft and directories above it can
be new. None of these is a memory's file, so every memory is looked up, listed and
read as before, whatever stands at the draft's place.

A memory that cannot be read may be missed for another cause where directories are
new, but only if its name is too long for any file.
-/

namespace MemoryKeeper

open MemoryKeeper.Path (Location)

namespace FileTree

section Directories

variable {tree before after : FileTree} {place : Location}

/-- Nothing is found behind directories that lead towards an empty place. -/
theorem sight_of_absent (fitting : ∀ name ∈ place, name.utf8ByteSize ≤ longestName)
    (absent : tree.item? place = none)
    (leading : ∀ above, above <+: place →
      tree.item? above = none ∨ tree.item? above = some .directory) :
    tree.sight place = .error .noEntry := by
  induction place generalizing tree with
  | nil => simp at absent
  | cons name rest ih =>
      cases tree with
      | file content holder => simpa [item] using leading [] List.nil_prefix
      | directory entries =>
          simp only [sight, find]
          rcases found : entries.lookup name with _ | child
          · have fits := fitting name List.mem_cons_self
            simp only [Nat.not_lt.mpr fits, if_false]
            rfl
          · refine ih ?_ ?_ ?_
            · intro other further
              exact fitting other (List.mem_cons_of_mem name further)
            · simpa [found] using absent
            · intro above inside
              have below := leading (name :: above) (List.cons_prefix_cons.mpr ⟨rfl, inside⟩)
              simpa [found] using below

/-- New directories on the way to a place do not show there, unless a name is too long. -/
theorem sight_of_directories (fitting : ∀ name ∈ place, name.utf8ByteSize ≤ longestName)
    (here : after.item? place = before.item? place)
    (onTheWay : ∀ above, above <+: place → after.item? above = before.item? above ∨
      before.item? above = none ∧ after.item? above = some .directory) :
    after.sight place = before.sight place := by
  induction place generalizing before after with
  | nil =>
      rw [item?_nil, item?_nil, Option.some.injEq] at here
      exact congrArg Except.ok here
  | cons name rest ih =>
      have start := onTheWay [] List.nil_prefix
      simp only [item?_nil, Option.some.injEq, reduceCtorEq, false_and, or_false] at start
      cases before with
      | file content holder =>
          cases after with
          | file contentToo holderToo => rfl
          | directory entries => simp [item] at start
      | directory entries =>
          cases after with
          | file content holder => simp [item] at start
          | directory entriesToo =>
              simp only [sight, find]
              have later : ∀ other ∈ rest, other.utf8ByteSize ≤ longestName := by
                intro other further
                exact fitting other (List.mem_cons_of_mem name further)
              have below := fun above (inside : above <+: rest) =>
                onTheWay (name :: above) (List.cons_prefix_cons.mpr ⟨rfl, inside⟩)
              simp only [item?_directory] at here below
              rcases old : entries.lookup name with _ | child <;>
                rcases new : entriesToo.lookup name with _ | childToo
              · rfl
              · have fits := fitting name List.mem_cons_self
                simp only [Nat.not_lt.mpr fits, if_false]
                refine sight_of_absent later ?_ ?_
                · simpa [old, new] using here
                · simpa [old, new] using below
              · have first := below [] List.nil_prefix
                simp [old, new] at first
              · refine ih later ?_ ?_
                · simpa [old, new] using here
                · simpa [old, new] using below

end Directories

end FileTree

namespace Storage

variable {storage : Storage} {entry : MemoryEntry} {text : String} {holder : Holder}
  {world after : World} {deeds : List Deed} {before tree left : FileTree}

/-- Makes changes for a memory one after another, up to the first that fails. -/
def changeInTurn (storage : Storage) (entry : MemoryEntry) : List Edit → Task StoreError Unit
  | [] => pure ()
  | [edit] => storage.change entry edit
  | edit :: edits => do
    storage.change entry edit
    storage.changeInTurn entry edits

/-- The changes that bring a text to a memory's draft. -/
def draftEdits (storage : Storage) (entry : MemoryEntry) (text : String) : List Edit :=
  [.createDirectories (storage.place entry).dropLast, .createFile (storage.draftPlace entry),
    .append (storage.draftPlace entry) (Text.encode text),
    .synchronize (storage.draftPlace entry)]

/-- The change that brings a memory's draft to the memory's own place. -/
def move (storage : Storage) (entry : MemoryEntry) : Edit :=
  .rename (storage.draftPlace entry) (storage.place entry)

theorem write_eq (storage : Storage) (entry : MemoryEntry) (text : String) :
    storage.write entry text =
      storage.changeInTurn entry (storage.draftEdits entry text ++ [storage.move entry]) :=
  rfl

/-- Changes in turn are one change, behind which the others follow if it is made. -/
theorem changeInTurn_cons (storage : Storage) (entry : MemoryEntry) (edit : Edit)
    (edits : List Edit) :
    ∃ next, (storage.changeInTurn entry (edit :: edits)).run = .change edit next ∧
      next (.ok ()) = (storage.changeInTurn entry edits).run ∧
      ∀ cause, next (.error cause) =
        .done (.error (.io (storage.memoryPath entry) (.os cause))) := by
  cases edits with
  | nil => exact ⟨_, rfl, rfl, fun _ => rfl⟩
  | cons second edits => exact ⟨_, rfl, rfl, fun _ => rfl⟩

/-- Changes in turn leave what a series of them may leave. -/
theorem inTurn_of_passes {edits : List Edit}
    (passed : (storage.changeInTurn entry edits).run.Passes holder world deeds after) :
    Edit.InTurn edits world.files (editsMade deeds) after.files := by
  induction edits generalizing world deeds with
  | nil =>
      rcases Program.Passes.eq_of_done passed with ⟨rfl, rfl⟩
      exact .done after.files
  | cons edit edits ih =>
      rcases storage.changeInTurn_cons entry edit edits with ⟨next, program, further, ended⟩
      rw [program] at passed
      rcases passed.change_cases with
        ⟨files, later, applied, rfl, onward⟩ | ⟨cause, files, later, leaves, rfl, onward⟩ |
          ⟨leaves, rfl⟩
      · rw [further] at onward
        exact .made applied (ih onward)
      · rw [ended] at onward
        rcases onward.eq_of_done with ⟨rfl, rfl⟩
        exact .unfinished leaves
      · exact .unfinished leaves

/-- Whatever a series of changes may leave is left by the changes in turn, if they stop there. -/
theorem passes_of_inTurn (storage : Storage) (entry : MemoryEntry) {edits whole : List Edit}
    {files : FileTree} (holder : Holder) (inTurn : Edit.InTurn edits world.files whole files) :
    ∃ deeds, editsMade deeds = whole ∧
      (storage.changeInTurn entry edits).run.Passes holder world deeds
        (world.withFiles files) := by
  induction edits generalizing world whole with
  | nil =>
      cases inTurn with
      | done => exact ⟨[], rfl, .stopped _ world⟩
  | cons edit edits ih =>
      rcases storage.changeInTurn_cons entry edit edits with ⟨next, program, further, -⟩
      rw [program]
      cases inTurn with
      | unfinished leaves => exact ⟨[], rfl, .torn leaves⟩
      | @made _ _ _ _ between _ applied later =>
          have onward : Edit.InTurn edits (world.withFiles between).files _ files := later
          rcases ih onward with ⟨deeds, rfl, passed⟩
          rw [← further] at passed
          exact ⟨_, editsMade_changed_ok edit deeds, .changed applied passed⟩

/-- A series that is made as a whole is what the changes come to that nothing interrupts. -/
theorem perform_changeInTurn {edits : List Edit} {files : FileTree}
    (inTurn : Edit.InTurn edits world.files edits files) :
    (storage.changeInTurn entry edits).perform holder world = (.ok (), world.withFiles files) := by
  induction edits generalizing world with
  | nil =>
      cases inTurn with
      | done => rw [changeInTurn, Task.perform_pure, World.withFiles_self]
  | cons edit edits ih =>
      cases inTurn with
      | @made _ _ _ _ between _ applied later =>
          have first : (storage.change entry edit).perform holder world =
              (.ok (), world.withFiles between) := perform_change_of_ok world edit applied
          have rest : (storage.changeInTurn entry edits).perform holder (world.withFiles between) =
              (.ok (), world.withFiles files) := ih later
          cases edits with
          | nil =>
              cases later with
              | done => exact first
          | cons second edits => exact (Task.perform_bind_of_ok first _).trans rest

/-- Files that differ from earlier ones in what stands at a memory's draft, and in directories above
the memory where nothing stood. -/
def Pending (storage : Storage) (entry : MemoryEntry) (before tree : FileTree) : Prop :=
  ∀ place, ¬storage.draftPlace entry <+: place → tree.item? place = before.item? place ∨
    place <+: (storage.place entry).dropLast ∧ before.item? place = none ∧
      tree.item? place = some .directory

/-- Files of which every memory is looked up, listed and read as it is of earlier ones. -/
structure AnswersAlike (storage : Storage) (before after : FileTree) : Prop where
  list : ∀ asked, storage.list after asked = storage.list before asked
  find : ∀ slug, storage.find? after slug = storage.find? before slug
  resolve : ∀ reference, storage.resolve? after reference = storage.resolve? before reference
  read : ∀ entry, (storage.textOf after entry).toOption = (storage.textOf before entry).toOption
  /-- What cannot be read is missed for the same cause, if files can have such names at all. -/
  cause : ∀ entry, (∀ name ∈ storage.place entry, name.utf8ByteSize ≤ FileTree.longestName) →
    storage.textOf after entry = storage.textOf before entry

/-- What is read of a memory is the text of its file. -/
theorem toOption_textOf (storage : Storage) (tree : FileTree) (entry : MemoryEntry) :
    (storage.textOf tree entry).toOption =
      (tree.fileAt? (storage.place entry)).bind Text.decode? := by
  rcases present : tree.fileAt? (storage.place entry) with _ | content
  · rw [textOf, FileTree.readText]
    rcases found : tree.find (storage.place entry) with failure | (⟨content, holder⟩ | entries)
    · rfl
    · simp [FileTree.fileAt?, FileTree.item?, FileTree.standing?, found, Except.toOption,
        FileTree.item, Item.content?] at present
    · rfl
  · rw [textOf_eq present]
    rcases decoded : Text.decode? content with _ | text
    · simp [decoded, Except.toOption]
    · simp [decoded, Except.toOption]

theorem place_outside_draft (storage : Storage) (entry other : MemoryEntry) :
    ¬storage.draftPlace entry <+: storage.place other := by
  intro inside
  have same := inside.eq_of_length (by simp [place_eq, draftPlace_eq])
  exact storage.place_ne_draftPlace other entry same.symm

namespace Pending

theorem refl (storage : Storage) (entry : MemoryEntry) (tree : FileTree) :
    storage.Pending entry tree tree :=
  fun _ _ => .inl rfl

/-- More directories can be made above the memory. -/
theorem createDirectories (pending : storage.Pending entry before tree) {above : Location}
    (onTheWay : above <+: (storage.place entry).dropLast)
    (made : tree.createDirectories above = .ok left) : storage.Pending entry before left := by
  intro place outside
  rw [FileTree.items_of_createDirectories made]
  split
  · next inside =>
      rcases pending place outside with same | ⟨-, absent, -⟩
      · rcases standing : before.item? place with _ | content | _
        · exact .inr ⟨inside.trans onTheWay, rfl, rfl⟩
        · have noFile : tree.item? place ≠ some (.file content) :=
            FileTree.item?_ne_file_of_createDirectories made inside
          exact absurd (same.trans standing) noFile
        · exact .inl rfl
      · exact .inr ⟨inside.trans onTheWay, absent, rfl⟩
  · exact pending place outside

/-- Whatever stands at the draft's place can be replaced. -/
theorem replace (pending : storage.Pending entry before tree)
    (elsewhere : ∀ place, ¬storage.draftPlace entry <+: place →
      left.item? place = tree.item? place) : storage.Pending entry before left := by
  intro place outside
  rw [elsewhere place outside]
  exact pending place outside

theorem update (pending : storage.Pending entry before tree) {item : Option Item}
    (items : left.item? = Function.update tree.item? (storage.draftPlace entry) item) :
    storage.Pending entry before left := by
  refine pending.replace ?_
  intro place outside
  have elsewhere : place ≠ storage.draftPlace entry := by
    rintro rfl
    exact outside List.prefix_rfl
  rw [items, Function.update_of_ne elsewhere]

/-- A change that is not made as a whole makes directories or adds to the draft at most. -/
theorem leaves (pending : storage.Pending entry before tree) {edit : Edit}
    (step : edit ∈ storage.draftEdits entry text ++ [storage.move entry])
    (leaves : edit.Leaves tree left) : storage.Pending entry before left := by
  simp only [draftEdits, move, List.cons_append, List.nil_append, List.mem_cons,
    List.not_mem_nil, or_false] at step
  cases leaves with
  | nothing => exact pending
  | directories onTheWay made =>
      simp only [Edit.createDirectories.injEq, reduceCtorEq, or_false] at step
      subst step
      exact pending.createDirectories onTheWay made
  | bytes split made =>
      simp only [Edit.append.injEq, reduceCtorEq, or_false, false_or] at step
      rcases step with ⟨rfl, -⟩
      exact pending.update (FileTree.items_of_append made)

/-- Up to the move of the draft, so does a change that is made as a whole. -/
theorem apply (pending : storage.Pending entry before tree) {edit : Edit}
    (step : edit ∈ storage.draftEdits entry text) (applied : edit.apply tree = .ok left) :
    storage.Pending entry before left := by
  simp only [draftEdits, List.mem_cons, List.not_mem_nil, or_false] at step
  rcases step with rfl | rfl | rfl | rfl
  · exact pending.createDirectories List.prefix_rfl applied
  · exact pending.update (FileTree.items_of_createFile applied).2
  · exact pending.update (FileTree.items_of_append applied)
  · rw [Edit.apply, Except.ok.injEq] at applied
    exact applied ▸ pending

/-- No memory stands at a draft's place, or above another memory. -/
theorem item?_place (pending : storage.Pending entry before tree) (other : MemoryEntry) :
    tree.item? (storage.place other) = before.item? (storage.place other) := by
  have outside := storage.place_outside_draft entry other
  rcases pending (storage.place other) outside with same | ⟨above, -, -⟩
  · exact same
  · have shorter := above.length_le
    simp [place_eq] at shorter

theorem fileAt?_place (pending : storage.Pending entry before tree) (other : MemoryEntry) :
    tree.fileAt? (storage.place other) = before.fileAt? (storage.place other) := by
  rw [FileTree.fileAt?, FileTree.fileAt?, pending.item?_place other]

/-- On the way to a memory there may be new directories, but no draft. -/
theorem sight_place (pending : storage.Pending entry before tree) (other : MemoryEntry)
    (fitting : ∀ name ∈ storage.place other, name.utf8ByteSize ≤ FileTree.longestName) :
    tree.sight (storage.place other) = before.sight (storage.place other) := by
  refine FileTree.sight_of_directories fitting (pending.item?_place other) ?_
  intro above inside
  have outside : ¬storage.draftPlace entry <+: above := by
    intro draft
    exact storage.place_outside_draft entry other (draft.trans inside)
  rcases pending above outside with same | ⟨-, absent, made⟩
  · exact .inl same
  · exact .inr ⟨absent, made⟩

theorem answersAlike (pending : storage.Pending entry before tree) :
    storage.AnswersAlike before tree := by
  have holds : storage.holds tree = storage.holds before := holds_congr pending.fileAt?_place
  refine ⟨list_congr holds, ?_, resolve?_congr pending.fileAt?_place, ?_, ?_⟩
  · intro slug
    rw [find?, find?, holds]
  · intro other
    rw [toOption_textOf, toOption_textOf, pending.fileAt?_place]
  · intro other fitting
    rw [textOf, textOf, FileTree.readText_congr (pending.sight_place other fitting)]

end Pending

section Writing

variable {whole : List Edit} {files : FileTree}

/-- Nothing else than the move of the draft changes a memory's file. -/
theorem pending_of_inTurn
    (inTurn : Edit.InTurn (storage.draftEdits entry text ++ [storage.move entry]) tree whole files)
    (unmoved : storage.move entry ∉ whole) : storage.Pending entry tree files := by
  refine inTurn.kept ?_ ?_ (Pending.refl storage entry tree)
  · intro edit step before left pending leaves
    exact pending.leaves step leaves
  · intro edit step before changed pending applied
    rcases List.mem_append.mp (inTurn.isPrefix.subset step) with drafting | moving
    · exact pending.apply drafting applied
    · rw [List.mem_singleton] at moving
      exact absurd (moving ▸ step) unmoved

/-- The draft is moved last. -/
theorem eq_of_moved
    (inTurn : Edit.InTurn (storage.draftEdits entry text ++ [storage.move entry]) tree whole files)
    (moved : storage.move entry ∈ whole) :
    whole = storage.draftEdits entry text ++ [storage.move entry] := by
  rcases List.prefix_concat_iff.mp inTurn.isPrefix with all | unfinished
  · exact all
  · have early := unfinished.subset moved
    simp [draftEdits, move] at early

/-- A draft that is moved holds the whole text. -/
theorem fileAt?_of_moved (holder : Holder)
    (inTurn : Edit.InTurn (storage.draftEdits entry text ++ [storage.move entry]) world.files whole
      files)
    (moved : storage.move entry ∈ whole) :
    files.fileAt? = Function.update
      (Function.update world.files.fileAt? (storage.draftPlace entry) none)
      (storage.place entry) (some (Text.encode text)) := by
  have all := eq_of_moved inTurn moved
  subst all
  have written := @written_write storage entry text holder world
  rw [write_eq, perform_changeInTurn inTurn] at written
  cases written with
  | done opens free files cleared outside => exact files

end Writing

/-- Wherever a write stops and whatever fails in it, a memory's file is as it was or holds the whole
text. Once the draft is moved, no other file has changed; until then every memory is looked up,
listed and read as before, whatever is left at the draft's place. The one exception is the cause
that is given for not reading a memory whose name is too long for any file: behind new directories
it may be another one. -/
theorem write_is_all_or_nothing
    (passed : (storage.write entry text).run.Passes holder world deeds after) :
    (after.files.item? (storage.place entry) = world.files.item? (storage.place entry) ∨
      after.files.item? (storage.place entry) = some (.file (Text.encode text))) ∧
    (.changed (storage.move entry) (.ok ()) ∈ deeds →
      after.files.fileAt? = Function.update
        (Function.update world.files.fileAt? (storage.draftPlace entry) none)
        (storage.place entry) (some (Text.encode text))) ∧
    (.changed (storage.move entry) (.ok ()) ∉ deeds →
      after.files.item? (storage.place entry) = world.files.item? (storage.place entry) ∧
      ∀ left : FileTree, (∀ place, ¬storage.draftPlace entry <+: place →
        left.item? place = after.files.item? place) → storage.AnswersAlike world.files left) := by
  rw [write_eq] at passed
  have inTurn := inTurn_of_passes passed
  rw [← mem_editsMade]
  by_cases moved : storage.move entry ∈ editsMade deeds
  · have files := fileAt?_of_moved holder inTurn moved
    refine ⟨.inr ?_, fun _ => files, fun unmoved => absurd moved unmoved⟩
    rw [← FileTree.fileAt?_eq_some_iff, files, Function.update_self]
  · have pending := pending_of_inTurn inTurn moved
    have same := pending.item?_place entry
    refine ⟨.inl same, fun isMoved => absurd isMoved moved, fun _ => ⟨same, ?_⟩⟩
    intro left elsewhere
    exact (pending.replace elsewhere).answersAlike

/-- A write that is broken off when two of three octets are in the draft. -/
theorem write_is_all_or_nothing_of_two_octets :
    let storage : Storage := ⟨"/r/.git", "/r"⟩
    let entry : MemoryEntry := ⟨.insight, ⟨"x", by decide⟩⟩
    let world := World.plain [("memories", .directory [("insight", .directory
      [("x.md", .file (Text.encode "old") none)])])] Git.idle
    ∃ deeds after, (storage.write entry "new").run.Passes 0 world deeds after ∧
      after.files.fileAt? (storage.draftPlace entry) = some (Text.encode "ne") ∧
      after.files.fileAt? (storage.place entry) = some (Text.encode "old") ∧
      storage.AnswersAlike world.files after.files := by
  intro storage entry world
  have present : world.files.fileAt? (storage.place entry) = some (Text.encode "old") := by
    decide +kernel
  have absent : world.files.item? (storage.draftPlace entry) = none := by
    decide +kernel
  have fitting : FileTree.fits (storage.draftPlace entry) := by
    decide +kernel
  rcases exists_openDraft? present (by rw [absent]; simp) fun _ => fitting with ⟨opened, opens, -⟩
  rcases openDraft?_eq_some_iff.mp opens with ⟨prepared, directories, created⟩
  have items := (FileTree.items_of_createFile created).2
  have empty : opened.item? (storage.draftPlace entry) = some (.file .empty) := by
    rw [items, Function.update_self]
  have added : ∃ torn, opened.append (Text.encode "ne") (storage.draftPlace entry) = .ok torn := by
    rw [draftPlace_eq] at empty ⊢
    exact FileTree.append_succeeds empty
  rcases added with ⟨torn, added⟩
  have split : Text.encode "ne" ++ Text.encode "w" = Text.encode "new" := by
    decide +kernel
  have inTurn : Edit.InTurn (storage.draftEdits entry "new" ++ [storage.move entry]) world.files
      [.createDirectories (storage.place entry).dropLast, .createFile (storage.draftPlace entry)]
      torn :=
    .made directories (.made created (.unfinished (.bytes split added)))
  rcases storage.passes_of_inTurn entry 0 inTurn with ⟨deeds, whole, passed⟩
  have unmoved : Deed.changed (storage.move entry) (.ok ()) ∉ deeds := by
    rw [← mem_editsMade, whole]
    simp [move]
  rcases write_is_all_or_nothing passed with ⟨-, -, untouched⟩
  rcases untouched unmoved with ⟨same, alike⟩
  refine ⟨deeds, world.withFiles torn, passed, ?_, ?_, alike torn fun _ _ => rfl⟩
  · have bytes := FileTree.fileAt?_eq_some_iff.mpr empty
    rw [FileTree.fileAt?_eq_some_iff, World.withFiles_files, FileTree.items_of_append added,
      Function.update_self, bytes]
    simp
  · rw [FileTree.fileAt?, same]
    exact present

end Storage

end MemoryKeeper

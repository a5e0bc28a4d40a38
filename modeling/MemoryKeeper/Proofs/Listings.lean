import Mathlib.Data.List.Nodup
import Mathlib.Data.String.Basic
import MemoryKeeper.Proofs.Documents
import MemoryKeeper.Proofs.Sessions

/-!
# Listing and naming memories

A listing shows each memory that exists once, and nothing else. It depends only
on which memories exist, and so does what a reference names; a bare slug names
the memory with that slug.
-/

namespace MemoryKeeper

open MemoryKeeper.Path (Location)

theorem nodup_eraseDups {Element : Type} [DecidableEq Element] (elements : List Element) :
    elements.eraseDups.Nodup := by
  match elements with
  | [] => simp
  | first :: rest =>
      rw [List.eraseDups_cons, List.nodup_cons]
      refine ⟨?_, nodup_eraseDups _⟩
      simp
termination_by elements.length
decreasing_by simpa using Nat.lt_add_one_of_le (List.length_filter_le _ rest)

theorem isBlank_of_isSlugChar {character : Char} (isSlugChar : isSlugChar character) :
    Text.isBlank character = false := by
  simp only [MemoryKeeper.isSlugChar, Bool.or_eq_true, Bool.and_eq_true, decide_eq_true_eq]
    at isSlugChar
  rcases isSlugChar with (⟨low, high⟩ | digit) | hyphen
  · have low : 97 ≤ character.toNat := low
    have high : character.toNat ≤ 122 := high
    simp only [Text.isBlank, Bool.or_eq_false_iff, Bool.and_eq_false_iff, decide_eq_false_iff_not,
      beq_eq_false_iff_ne]
    omega
  · exact Timestamp.isBlank_of_isDigit digit
  · rw [hyphen]
    decide

theorem Text.trim_eq_self {text : List Char} (ink : ∀ character ∈ text, isBlank character = false) :
    trim text = text := by
  have start : ∀ text : List Char, (∀ character ∈ text, isBlank character = false) →
      text.dropWhile isBlank = text := by
    intro text ink
    cases text with
    | nil => rfl
    | cons first rest => simp [ink first]
  rw [trim, trimStart, start text ink, trimEnd, start text.reverse (by simpa using ink),
    List.reverse_reverse]

namespace FileTree

theorem nodup_names (tree : FileTree) : tree.names.Nodup := by
  cases tree with
  | file content holder => exact List.nodup_nil
  | directory entries => exact nodup_eraseDups _

theorem mem_names {tree : FileTree} {name : String} :
    name ∈ tree.names ↔ (tree.item? [name]).isSome := by
  cases tree with
  | file content holder => simp [names]
  | directory entries =>
      simp only [names, List.mem_eraseDups, item?_directory, item?_nil]
      induction entries with
      | nil => simp
      | cons entry entries ih =>
          rcases entry with ⟨key, tree⟩
          by_cases here : name = key
          · simp [here]
          · have skipped : (name == key) = false := by simpa using here
            simpa [List.lookup_cons, skipped, here] using ih

end FileTree

namespace Storage

variable {storage : Storage} {tree left right : FileTree} {symbol : Symbol} {entry : MemoryEntry}

theorem slugOfFileName?_fileName (entry : MemoryEntry) :
    slugOfFileName? entry.fileName = some entry.slug := by
  have reversed : entry.fileName.toList.reverse =
      memoryEnding.toList.reverse ++ entry.slug.text.toList.reverse := by
    rw [MemoryEntry.fileName, String.toList_append, List.reverse_append]
  rw [slugOfFileName?, reversed, Text.after?_append]
  simp only [List.reverse_reverse, String.ofList_toList, Slug.ofString?_text]

theorem fileName_of_slugOfFileName? {name : String} {slug : Slug}
    (found : slugOfFileName? name = some slug) (symbol : Symbol) :
    name = (⟨symbol, slug⟩ : MemoryEntry).fileName := by
  rw [slugOfFileName?] at found
  rcases ending : Text.after? memoryEnding.toList.reverse name.toList.reverse with _ | stem
  · simp only [ending, reduceCtorEq] at found
  · simp only [ending] at found
    have reversed := Text.eq_append_of_after? ending
    rw [List.reverse_eq_iff, List.reverse_append, List.reverse_reverse] at reversed
    rw [← String.toList_inj, reversed, MemoryEntry.fileName, Slug.text_of_ofString? found,
      String.toList_append, String.toList_ofList]

theorem mem_namesOf {name : String} :
    name ∈ storage.namesOf tree symbol ↔
      (tree.item? (storage.root ++ [memoriesName, symbol.kind] ++ [name])).isSome := by
  rw [FileTree.item?_append, ← symbolDirectory_eq, namesOf, FileTree.standing?]
  rcases tree.find (Path.location (storage.symbolDirectory symbol)) with failure | directory
  · simp [Except.toOption]
  · exact FileTree.mem_names

theorem nodup_namesOf (storage : Storage) (tree : FileTree) (symbol : Symbol) :
    (storage.namesOf tree symbol).Nodup := by
  rw [namesOf]
  split
  · exact FileTree.nodup_names _
  · exact List.nodup_nil

/-- The memories of a category before they are put in order. -/
theorem mem_listOf :
    entry ∈ storage.listOf tree symbol ↔ storage.holds tree entry ∧ entry.symbol = symbol := by
  simp only [listOf, List.mem_mergeSort, List.mem_filter, List.mem_filterMap,
    Option.map_eq_some_iff]
  constructor
  · rintro ⟨⟨name, -, slug, -, rfl⟩, held⟩
    exact ⟨held, rfl⟩
  · rintro ⟨held, rfl⟩
    refine ⟨⟨entry.fileName, ?_, entry.slug, slugOfFileName?_fileName entry, rfl⟩, held⟩
    rw [mem_namesOf, ← place_eq]
    rw [holds, FileTree.isFile_iff] at held
    rcases held with ⟨content, standing⟩
    rw [standing]
    rfl

theorem nodup_listOf (storage : Storage) (tree : FileTree) (symbol : Symbol) :
    (storage.listOf tree symbol).Nodup := by
  rw [listOf, (List.mergeSort_perm _ _).nodup_iff]
  refine List.Nodup.filter _ ((storage.nodup_namesOf tree symbol).filterMap ?_)
  intro name other entry found foundToo
  simp only [Option.mem_def, Option.map_eq_some_iff] at found foundToo
  rcases found with ⟨slug, isSlug, rfl⟩
  rcases foundToo with ⟨sameSlug, isSlugToo, same⟩
  cases same
  rw [fileName_of_slugOfFileName? isSlug symbol, fileName_of_slugOfFileName? isSlugToo symbol]

theorem pairwise_listOf (storage : Storage) (tree : FileTree) (symbol : Symbol) :
    (storage.listOf tree symbol).Pairwise fun left right => left.slug.text ≤ right.slug.text := by
  rw [listOf]
  refine (List.pairwise_mergeSort ?_ ?_ _).imp of_decide_eq_true
  · intro first second third near far
    exact decide_eq_true (le_trans (of_decide_eq_true near) (of_decide_eq_true far))
  · intro left right
    simpa only [Bool.or_eq_true, decide_eq_true_eq] using le_total left.slug.text right.slug.text

/-- A listing is read off the files of memories alone. -/
theorem listOf_congr (same : storage.holds left = storage.holds right) (symbol : Symbol) :
    storage.listOf left symbol = storage.listOf right symbol := by
  refine List.Perm.eq_of_pairwise ?_ (storage.pairwise_listOf left symbol)
    (storage.pairwise_listOf right symbol) ?_
  · intro first second isFirst isSecond near far
    have sameSlug : first.slug = second.slug := Slug.ext (le_antisymm near far)
    have sameSymbol : first.symbol = second.symbol :=
      (mem_listOf.mp isFirst).2.trans (mem_listOf.mp isSecond).2.symm
    cases first
    cases second
    simp only at sameSlug sameSymbol
    rw [sameSlug, sameSymbol]
  · rw [List.perm_ext_iff_of_nodup (storage.nodup_listOf left symbol)
      (storage.nodup_listOf right symbol)]
    intro entry
    rw [mem_listOf, mem_listOf, same]

theorem list_congr (same : storage.holds left = storage.holds right) (symbol : Option Symbol) :
    storage.list left symbol = storage.list right symbol := by
  cases symbol with
  | none => exact congrArg Symbol.all.flatMap (funext (listOf_congr same))
  | some symbol => exact listOf_congr same symbol

/-- A listing shows each memory of the category asked for once. -/
theorem mem_list {asked : Option Symbol} :
    entry ∈ storage.list tree asked ↔
      storage.holds tree entry ∧ ∀ symbol, asked = some symbol → entry.symbol = symbol := by
  cases asked with
  | none =>
      simp only [list, List.mem_flatMap, mem_listOf, reduceCtorEq, false_implies, implies_true,
        and_true]
      constructor
      · rintro ⟨symbol, -, held, -⟩
        exact held
      · intro held
        exact ⟨entry.symbol, entry.symbol.mem_all, held, rfl⟩
  | some symbol =>
      rw [list, mem_listOf]
      apply and_congr_right
      intro _
      constructor
      · intro same other isOther
        rw [same, Option.some.inj isOther]
      · intro same
        exact same symbol rfl

theorem nodup_list (storage : Storage) (tree : FileTree) (asked : Option Symbol) :
    (storage.list tree asked).Nodup := by
  cases asked with
  | none =>
      rw [list, List.nodup_flatMap]
      constructor
      · intro symbol _
        exact storage.nodup_listOf tree symbol
      · have distinct : Symbol.all.Nodup := by decide
        refine List.Pairwise.imp ?_ distinct
        intro first second differ entry isFirst isSecond
        exact differ ((mem_listOf.mp isFirst).2.symm.trans (mem_listOf.mp isSecond).2)
  | some symbol => exact storage.nodup_listOf tree symbol

theorem trimmed_text (slug : Slug) : Text.trimmed slug.text = slug.text := by
  have ink : ∀ character ∈ slug.text.toList, Text.isBlank character = false := by
    intro character present
    exact isBlank_of_isSlugChar (Slug.isSlugChar_of_mem present)
  rw [Text.trimmed, Text.trim_eq_self ink, String.ofList_toList]

theorem slugOfReference?_text (slug : Slug) : slugOfReference? slug.text = some slug := by
  have whole : Text.withoutEnding memoryEnding.toList slug.text.toList = slug.text.toList := by
    rw [Text.withoutEnding]
    split
    · next rest found =>
        have reversed := Text.eq_append_of_after? found
        have dot : '.' ∈ slug.text.toList := by
          rw [← List.mem_reverse, reversed]
          exact List.mem_append_left rest (by decide)
        exact absurd (Slug.isSlugChar_of_mem dot) (by decide)
    · rfl
  rw [slugOfReference?, whole, String.ofList_toList, Slug.ofString?_text]

theorem below?_append (before directory path : List Path.Component) :
    Path.below? (before ++ directory) (before ++ path) = Path.below? directory path := by
  induction before with
  | nil => rfl
  | cons component before ih => simpa [Path.below?] using ih

theorem entryNamed?_text (storage : Storage) (slug : Slug) :
    storage.entryNamed? slug.text = none := by
  have isName : Path.IsName slug.text := by
    have plain : ∀ character ∈ slug.text.toList, character ≠ '/' ∧ character ≠ '.' := by
      intro character present
      have isSlugChar := Slug.isSlugChar_of_mem present
      refine ⟨?_, ?_⟩ <;> rintro rfl <;> exact absurd isSlugChar (by decide)
    refine ⟨slug.toList_ne_nil, ?_, ?_, ?_⟩
    · intro slash
      exact (plain _ slash).1 rfl
    · intro dot
      exact (plain '.' (by simp [dot])).2 rfl
    · intro dots
      exact (plain '.' (by simp [dots])).2 rfl
  have memories : Path.IsName memoriesName := ⟨by decide, by decide, by decide, by decide⟩
  have below : Path.componentsBelow? storage.memoriesDirectory
      (Path.join storage.workDirectory slug.text) =
        if memoriesName = slug.text then some [] else none := by
    rw [Path.componentsBelow?, memoriesDirectory, Path.components_join _ memories,
      Path.components_join _ isName, below?_append]
    simp [Path.below?]
  simp only [entryNamed?, memoryFile?, Option.bind_eq_bind, Option.bind_eq_none_iff]
  intro whole isWhole components found
  split at isWhole
  · cases isWhole
    rw [below] at found
    split at found
    · cases found
      rfl
    · cases found
  · cases isWhole

/-- A bare slug names the memory that has it. -/
theorem resolveAmong?_text (storage : Storage) (held : MemoryEntry → Bool) (slug : Slug) :
    storage.resolveAmong? held slug.text = findAmong? held slug := by
  rw [resolveAmong?, trimmed_text, entryNamed?_text, slugOfReference?_text]
  rfl

end Storage

end MemoryKeeper

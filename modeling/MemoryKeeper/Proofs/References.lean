import MemoryKeeper.Proofs.Blanks
import MemoryKeeper.Proofs.Containment

/-!
# References to memories

A reference names a memory by the path of its file or by its slug, and a listing
finds memories by the names in the directories of the categories. Both find the
same memories. A path names a memory's file exactly if it leads, from name to
name, to where that file is kept, so it may be spelled with more slashes and dots
than are needed.
-/

namespace MemoryKeeper

open MemoryKeeper.Path (moves)

namespace Path

/-- What may stand for one slash in a path: slashes, and dots between them. -/
inductive IsSeparator : List Char → Prop where
  | slash : IsSeparator ['/']
  | again {separator : List Char} (further : IsSeparator separator) :
      IsSeparator ('/' :: separator)
  | here {separator : List Char} (further : IsSeparator separator) :
      IsSeparator ('/' :: '.' :: separator)

variable {separator : List Char}

theorem IsSeparator.exists_concat (isSeparator : IsSeparator separator) :
    ∃ front, separator = front ++ ['/'] := by
  induction isSeparator with
  | slash => exact ⟨[], rfl⟩
  | again further ih =>
      rcases ih with ⟨front, rfl⟩
      exact ⟨'/' :: front, rfl⟩
  | here further ih =>
      rcases ih with ⟨front, rfl⟩
      exact ⟨'/' :: '.' :: front, rfl⟩

theorem filterMap_piecesFrom_slash (piece rest : List Char) :
    (piecesFrom piece ('/' :: rest)).filterMap innerComponent? =
      (innerComponent? piece).toList ++ (piecesFrom [] rest).filterMap innerComponent? := by
  rw [piecesFrom, if_pos rfl, List.filterMap_cons]
  cases innerComponent? piece <;> rfl

/-- A separator ends the piece before it and adds no component of its own. -/
theorem filterMap_piecesFrom_separator (isSeparator : IsSeparator separator)
    (piece rest : List Char) :
    (piecesFrom piece (separator ++ rest)).filterMap innerComponent? =
      (innerComponent? piece).toList ++ (piecesFrom [] rest).filterMap innerComponent? := by
  induction isSeparator generalizing piece with
  | slash => exact filterMap_piecesFrom_slash piece rest
  | again further ih =>
      rw [List.cons_append, filterMap_piecesFrom_slash, ih]
      rfl
  | here further ih =>
      have dot : ∀ text, piecesFrom [] ('.' :: text) = piecesFrom ['.'] text := by
        intro text
        simp [piecesFrom]
      rw [List.cons_append, filterMap_piecesFrom_slash, List.cons_append, dot, ih]
      rfl

theorem filterMap_piecesFrom_name {name : String} (isName : IsName name)
    (isSeparator : IsSeparator separator) (rest : List Char) :
    (piecesFrom [] (name.toList ++ (separator ++ rest))).filterMap innerComponent? =
      .name name :: (piecesFrom [] rest).filterMap innerComponent? := by
  rw [piecesFrom_notMem_append isName.whole, filterMap_piecesFrom_separator isSeparator,
    List.nil_append, innerComponent?_name isName]
  rfl

end Path

namespace MemoryEntry

open MemoryKeeper.Path (IsSeparator piecesFrom innerComponent?)
open MemoryKeeper.Text (isBlank)

/-- The path of a memory's file with given separators, behind a lead and before an ending. -/
def pathText (entry : MemoryEntry) (lead first second last : List Char) : List Char :=
  lead ++ memoriesName.toList ++ first ++ entry.symbol.kind.toList ++ second ++
    entry.fileName.toList ++ last

/-- The spellings of the path of a memory's file: blanks around it, any separators for its slashes,
dots before it and slashes behind it. -/
inductive IsSpelledBy (entry : MemoryEntry) : String → Prop where
  | intro {before lead first second last after : List Char}
      (beforeBlank : ∀ character ∈ before, isBlank character)
      (leads : lead = [] ∨ ∃ separator, IsSeparator separator ∧ lead = '.' :: separator)
      (isFirst : IsSeparator first) (isSecond : IsSeparator second)
      (isLast : last = [] ∨ IsSeparator last)
      (afterBlank : ∀ character ∈ after, isBlank character) :
      IsSpelledBy entry (String.ofList (before ++ entry.pathText lead first second last ++ after))

/-- The way from the work tree to the file of a memory. -/
def route (entry : MemoryEntry) : List Path.Component :=
  entry.names.map .name

variable {entry : MemoryEntry} {lead first second last : List Char}

theorem isSpelledBy_relativePath (entry : MemoryEntry) :
    entry.IsSpelledBy entry.relativePath := by
  have spelled := @IsSpelledBy.intro entry [] [] ['/'] ['/'] [] [] (by simp) (.inl rfl) .slash
    .slash (.inl rfl) (by simp)
  have same : entry.relativePath =
      String.ofList ([] ++ entry.pathText [] ['/'] ['/'] [] ++ []) := by
    rw [relativePath_eq, ← String.toList_inj, pathText, toList_fileName]
    simp [memoriesName]
  rwa [← same] at spelled

theorem head?_pathText
    (leads : lead = [] ∨ ∃ separator, IsSeparator separator ∧ lead = '.' :: separator) :
    ∃ initial, (entry.pathText lead first second last).head? = some initial ∧
      isBlank initial = false ∧ initial ≠ '/' := by
  rcases leads with rfl | ⟨separator, -, rfl⟩
  · exact ⟨'m', by simp [pathText, memoriesName], by decide, by decide⟩
  · exact ⟨'.', rfl, by decide, by decide⟩

theorem getLast?_pathText (isLast : last = [] ∨ IsSeparator last) :
    ∃ final, (entry.pathText lead first second last).getLast? = some final ∧
      isBlank final = false := by
  rcases isLast with rfl | isSeparator
  · refine ⟨'d', ?_, by decide⟩
    rw [pathText, List.append_nil, List.getLast?_append, getLast?_fileName, Option.some_or]
  · rcases isSeparator.exists_concat with ⟨front, rfl⟩
    refine ⟨'/', ?_, by decide⟩
    rw [pathText, ← List.append_assoc, List.getLast?_concat]

theorem filterMap_pathText
    (leads : lead = [] ∨ ∃ separator, IsSeparator separator ∧ lead = '.' :: separator)
    (isFirst : IsSeparator first) (isSecond : IsSeparator second)
    (isLast : last = [] ∨ IsSeparator last) :
    (piecesFrom [] (entry.pathText lead first second last)).filterMap innerComponent? =
      entry.route := by
  have ending : (piecesFrom [] (entry.fileName.toList ++ last)).filterMap innerComponent? =
      [.name entry.fileName] := by
    rcases isLast with rfl | isSeparator
    · rw [List.append_nil, Path.piecesFrom_of_notMem entry.isName_fileName.whole, List.nil_append,
        List.filterMap_cons, Path.innerComponent?_name entry.isName_fileName]
      rfl
    · have found := Path.filterMap_piecesFrom_name entry.isName_fileName isSeparator []
      rwa [List.append_nil] at found
  have route : (piecesFrom [] (entry.pathText [] first second last)).filterMap innerComponent? =
      entry.route := by
    simp only [pathText, List.nil_append, List.append_assoc]
    rw [Path.filterMap_piecesFrom_name Storage.isName_memoriesName isFirst,
      Path.filterMap_piecesFrom_name entry.symbol.isName_kind isSecond, ending]
    rfl
  rcases leads with rfl | ⟨separator, isSeparator, rfl⟩
  · exact route
  · have dotted : piecesFrom [] (entry.pathText ('.' :: separator) first second last) =
        piecesFrom ['.'] (separator ++ entry.pathText [] first second last) := by
      simp [pathText, piecesFrom]
    rw [dotted, Path.filterMap_piecesFrom_separator isSeparator, route]
    rfl

/-- Every spelling leads to the memory's file. -/
theorem moves_of_isSpelledBy {text : String} (spelled : entry.IsSpelledBy text) :
    Path.isAbsolute (Text.trimmed text) = false ∧ moves (Text.trimmed text) = entry.route := by
  cases spelled with
  | @intro before lead first second last after beforeBlank leads isFirst isSecond isLast
      afterBlank =>
      rcases head?_pathText leads with ⟨initial, begun, solidInitial, relative⟩
      rcases getLast?_pathText isLast with ⟨final, ended, solidFinal⟩
      have trimmed : Text.trimmed
          (String.ofList (before ++ entry.pathText lead first second last ++ after)) =
          String.ofList (entry.pathText lead first second last) := by
        rw [Text.trimmed, String.toList_ofList, Text.trim_between beforeBlank afterBlank]
        · rw [begun]
          simpa using solidInitial
        · rw [ended]
          simpa using solidFinal
      have notAbsolute :
          Path.isAbsolute (String.ofList (entry.pathText lead first second last)) = false := by
        rw [Path.isAbsolute, String.toList_ofList, begun]
        simpa using relative
      rw [trimmed]
      refine ⟨notAbsolute, ?_⟩
      rw [Path.moves_eq_of_relative notAbsolute, Path.pieces, String.toList_ofList]
      exact filterMap_pathText leads isFirst isSecond isLast

end MemoryEntry

namespace Storage

variable {storage : Storage} {tree : FileTree} {path text : String} {entry : MemoryEntry}

theorem entryOfComponents?_eq_some_iff {components : List Path.Component} :
    entryOfComponents? components = some entry ↔
      components = [.name entry.symbol.kind, .name entry.fileName] := by
  constructor
  · intro found
    unfold entryOfComponents? at found
    split at found
    · next kind file =>
        simp only [Option.bind_eq_bind, Option.bind_eq_some_iff] at found
        rcases found with ⟨symbol, isKind, slug, isSlug, made⟩
        cases made
        rw [Symbol.kind_of_ofKind? isKind, fileName_of_slugOfFileName? isSlug symbol]
    · cases found
  · rintro rfl
    simp [entryOfComponents?, slugOfFileName?_fileName]

/-- A path names the memory to whose file it leads from the work tree. -/
theorem entryNamed?_eq_some_iff (absolute : Path.isAbsolute storage.workDirectory) :
    storage.entryNamed? path = some entry ↔
      Path.isAbsolute path = false ∧ moves path = entry.route := by
  simp only [entryNamed?, Option.bind_eq_bind, Option.bind_eq_some_iff,
    entryOfComponents?_eq_some_iff, memoryFile?_eq_some_iff absolute]
  constructor
  · rintro ⟨whole, ⟨inward, first, rfl⟩, components, below, rfl⟩
    rw [componentsBelow?_join absolute (isInward_iff.mp inward).1, Path.below?_eq_some_iff] at below
    exact ⟨(isInward_iff.mp inward).1, below⟩
  · rintro ⟨relative, leads⟩
    have inward : isInward path := by
      refine isInward_iff.mpr ⟨relative, ?_⟩
      intro above
      have passed : Path.Component.above ∈ moves path := by
        rw [moves, List.mem_filter]
        exact ⟨above, by decide⟩
      rw [leads, MemoryEntry.route] at passed
      simp at passed
    refine ⟨_, ⟨inward, ?_, rfl⟩, [.name entry.symbol.kind, .name entry.fileName], ?_, rfl⟩
    · rw [leads]
      rfl
    · rw [componentsBelow?_join absolute relative, Path.below?_eq_some_iff, leads]
      rfl

theorem memoryPath_eq_join (storage : Storage) (entry : MemoryEntry) :
    storage.memoryPath entry = Path.join storage.workDirectory entry.relativePath := by
  have nonempty : entry.symbol.kind ≠ "" :=
    mt String.toList_eq_nil_iff.mpr entry.symbol.isName_kind.nonempty
  have relative : Path.isAbsolute (entry.symbol.kind ++ "/" ++ entry.fileName) = false := by
    rw [String.append_assoc, Path.isAbsolute_append nonempty]
    exact Path.not_isAbsolute_of_isName entry.symbol.isName_kind
  rw [memoryPath, symbolDirectory, memoriesDirectory,
    Path.join_join _ entry.symbol.isName_kind
      (Path.not_isAbsolute_of_isName entry.isName_fileName),
    Path.join_join _ isName_memoriesName relative]
  rfl

/-- A spelling of the path of a memory's file names the memory, if the file exists. -/
theorem resolve?_of_isSpelledBy (absolute : Path.isAbsolute storage.workDirectory)
    (held : storage.holds tree entry) (spelled : entry.IsSpelledBy text) :
    storage.resolve? tree text = some entry := by
  have named : storage.entryNamed? (Text.trimmed text) = some entry :=
    (entryNamed?_eq_some_iff absolute).mpr (MemoryEntry.moves_of_isSpelledBy spelled)
  rw [resolve?_eq, resolveAmong?, named, Option.filter_some, if_pos held, Option.some_or]

/-- A file name alone leads to no memory's file, so it stands for its slug. -/
theorem resolveAmong?_fileName (absolute : Path.isAbsolute storage.workDirectory)
    (held : MemoryEntry → Bool) (slug : Slug) :
    storage.resolveAmong? held (slug.text ++ ".md") = findAmong? held slug := by
  have isName : Path.IsName (slug.text ++ ".md") :=
    (⟨.insight, slug⟩ : MemoryEntry).isName_fileName
  have ink : ∀ character ∈ (slug.text ++ ".md").toList, Text.isBlank character = false := by
    intro character present
    rw [String.toList_append, List.mem_append] at present
    rcases present with inSlug | inEnding
    · exact isBlank_of_isSlugChar (Slug.isSlugChar_of_mem inSlug)
    · have solid : (".md" : String).toList.all fun ending => !Text.isBlank ending := by decide
      simpa using List.all_eq_true.mp solid character inEnding
  have trimmed : Text.trimmed (slug.text ++ ".md") = slug.text ++ ".md" := by
    rw [Text.trimmed, Text.trim_eq_self ink, String.ofList_toList]
  have notNamed : storage.entryNamed? (slug.text ++ ".md") = none := by
    rw [Option.eq_none_iff_forall_ne_some]
    intro entry named
    have leads := ((entryNamed?_eq_some_iff absolute).mp named).2
    rw [Path.moves_name isName] at leads
    have short := congrArg List.length leads
    simp [MemoryEntry.route, MemoryEntry.names] at short
  have isSlug : slugOfReference? (slug.text ++ ".md") = some slug := by
    rw [slugOfReference?, String.toList_append]
    have ending : (".md" : String).toList = memoryEnding.toList := rfl
    rw [ending, Text.withoutEnding_append, String.ofList_toList, Slug.ofString?_text]
  rw [resolveAmong?, trimmed, notNamed, isSlug]
  rfl

/-- The memory with a slug in the first category that has one is found, if there is any. -/
theorem exists_findAmong? {held : MemoryEntry → Bool} (present : held entry) :
    ∃ earlier first later, Symbol.all = earlier ++ first :: later ∧ held ⟨first, entry.slug⟩ ∧
      (∀ symbol ∈ earlier, ¬held ⟨symbol, entry.slug⟩) ∧
      findAmong? held entry.slug = some ⟨first, entry.slug⟩ := by
  have found : (Symbol.all.find? fun symbol => held ⟨symbol, entry.slug⟩).isSome :=
    List.find?_isSome.mpr ⟨entry.symbol, entry.symbol.mem_all, present⟩
  rcases Option.isSome_iff_exists.mp found with ⟨first, isFirst⟩
  rcases List.find?_eq_some_iff_append.mp isFirst with ⟨holds, earlier, later, whole, fresh⟩
  refine ⟨earlier, first, later, whole, holds, ?_, ?_⟩
  · simpa using fresh
  · rw [findAmong?, List.find?_map]
    exact congrArg (Option.map _) isFirst

/-- What references name is what a listing shows, and each memory that is shown can be named by its
path in any spelling and, if no earlier category has its slug, by its slug. -/
theorem resolve?_agrees_with_list (storage : Storage)
    (absolute : Path.isAbsolute storage.workDirectory) (tree : FileTree) :
    (∀ reference entry, storage.resolve? tree reference = some entry →
      tree.isFile (Path.location (storage.memoryPath entry)) ∧
      storage.memoryPath entry = Path.join storage.workDirectory entry.relativePath ∧
      entry.relativePath =
        "memories/" ++ entry.symbol.kind ++ "/" ++ entry.slug.text ++ ".md" ∧
      entry ∈ storage.list tree none ∧
      storage.resolve? tree entry.relativePath = some entry ∧
      ∀ text, entry.IsSpelledBy text → storage.resolve? tree text = some entry) ∧
    ∀ entry ∈ storage.list tree none,
      storage.resolve? tree entry.relativePath = some entry ∧
      ∃ earlier first later,
        [Symbol.insight, .pattern, .goal, .exploration] = earlier ++ first :: later ∧
        ⟨first, entry.slug⟩ ∈ storage.list tree none ∧
        (∀ symbol ∈ earlier, ⟨symbol, entry.slug⟩ ∉ storage.list tree none) ∧
        storage.resolve? tree entry.slug.text = some ⟨first, entry.slug⟩ ∧
        storage.resolve? tree (entry.slug.text ++ ".md") = some ⟨first, entry.slug⟩ := by
  have listed : ∀ entry, entry ∈ storage.list tree none ↔ storage.holds tree entry := by
    intro entry
    simp [mem_list]
  constructor
  · intro reference entry resolved
    have held := holds_of_resolve? resolved
    have spelled := entry.isSpelledBy_relativePath
    refine ⟨held, storage.memoryPath_eq_join entry, entry.relativePath_eq, (listed entry).mpr held,
      resolve?_of_isSpelledBy absolute held spelled, ?_⟩
    intro text
    exact resolve?_of_isSpelledBy absolute held
  · intro entry isListed
    have held := (listed entry).mp isListed
    refine ⟨resolve?_of_isSpelledBy absolute held entry.isSpelledBy_relativePath, ?_⟩
    rcases exists_findAmong? held with ⟨earlier, first, later, whole, holds, fresh, found⟩
    simp only [listed, resolve?_eq, resolveAmong?_text, resolveAmong?_fileName absolute]
    exact ⟨earlier, first, later, whole, holds, fresh, found, found⟩

/-- A memory whose slug is the name of the directory of memories, in two categories. -/
theorem resolve?_agrees_with_list_of_slug_memories :
    let storage : Storage := ⟨"/r/.git", "/r"⟩
    let file : FileTree := .file .empty none
    let tree : FileTree := .directory [("r", .directory [("memories", .directory
      [("goal", .directory [("memories.md", file)]),
        ("pattern", .directory [("memories.md", file)])])])]
    let entry : MemoryEntry := ⟨.goal, ⟨"memories", by decide⟩⟩
    Path.isAbsolute storage.workDirectory ∧ entry ∈ storage.list tree none ∧
      storage.resolve? tree "\t./memories//goal/././memories.md/ " = some entry := by
  intro storage file tree entry
  have absolute : Path.isAbsolute storage.workDirectory := by decide
  have agrees := resolve?_agrees_with_list storage absolute tree
  have listed : entry ∈ storage.list tree none := by
    rw [mem_list]
    exact ⟨by decide, by simp⟩
  have spelled : entry.IsSpelledBy "\t./memories//goal/././memories.md/ " := by
    have spelled := @MemoryEntry.IsSpelledBy.intro entry ['\t'] ['.', '/'] ['/', '/']
      ['/', '.', '/', '.', '/'] ['/'] [' '] (List.forall_mem_singleton.mpr rfl)
      (.inr ⟨['/'], .slash, rfl⟩) (.again .slash) (.here (.here .slash)) (.inr .slash)
      (List.forall_mem_singleton.mpr rfl)
    have same : String.ofList (['\t'] ++ entry.pathText ['.', '/'] ['/', '/']
        ['/', '.', '/', '.', '/'] ['/'] ++ [' ']) = "\t./memories//goal/././memories.md/ " := by
      decide
    rwa [same] at spelled
  have resolved := (agrees.2 entry listed).1
  exact ⟨absolute, listed, (agrees.1 _ entry resolved).2.2.2.2.2 _ spelled⟩

end Storage

end MemoryKeeper

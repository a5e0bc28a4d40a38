import MemoryKeeper.Memory.Lock

/-!
# Places of memories

The files of memories, their drafts and the lock stand at places that never
coincide. A name that is joined to a path adds one name to its place, so each of
these places is known by the names at its end.
-/

namespace MemoryKeeper

namespace Path

/-- A name that stands for itself in a path. -/
structure IsName (name : String) : Prop where
  nonempty : name.toList ≠ []
  whole : '/' ∉ name.toList
  notHere : name.toList ≠ ['.']
  notAbove : name.toList ≠ ['.', '.']

theorem piecesFrom_append (piece left right : List Char) :
    piecesFrom piece (left ++ '/' :: right) = piecesFrom piece left ++ piecesFrom [] right := by
  induction left generalizing piece with
  | nil => simp [piecesFrom]
  | cons character left ih =>
      by_cases slash : character = '/'
      · simp [piecesFrom, slash, ih]
      · simp [piecesFrom, slash, ih]

theorem piecesFrom_notMem_append {name : List Char} (whole : '/' ∉ name)
    (piece rest : List Char) : piecesFrom piece (name ++ rest) = piecesFrom (piece ++ name) rest := by
  induction name generalizing piece with
  | nil => simp
  | cons character name ih =>
      simp only [List.mem_cons, not_or] at whole
      have inside : character ≠ '/' := by
        intro slash
        exact whole.1 slash.symm
      simp [piecesFrom, inside, ih whole.2]

theorem piecesFrom_of_notMem {name : List Char} (whole : '/' ∉ name) (piece : List Char) :
    piecesFrom piece name = [piece ++ name] := by
  have ended := piecesFrom_notMem_append whole piece []
  rwa [List.append_nil, piecesFrom] at ended

/-- The piece that was begun is the beginning of the first one. -/
theorem exists_piecesFrom (piece text : List Char) :
    ∃ tail others, piecesFrom piece text = (piece ++ tail) :: others := by
  induction text generalizing piece with
  | nil => exact ⟨[], [], by simp [piecesFrom]⟩
  | cons character text ih =>
      rw [piecesFrom]
      split
      · exact ⟨[], piecesFrom [] text, by simp⟩
      · rcases ih (piece ++ [character]) with ⟨tail, others, shape⟩
        exact ⟨character :: tail, others, by simpa using shape⟩

theorem piecesFrom_ne_nil (piece text : List Char) : piecesFrom piece text ≠ [] := by
  rcases exists_piecesFrom piece text with ⟨tail, others, shape⟩
  simp [shape]

theorem pieces_ne_empty {path : String} (nonempty : path ≠ "") : pieces path ≠ [[]] := by
  rcases List.exists_cons_of_ne_nil (mt String.toList_eq_nil_iff.mp nonempty) with
    ⟨character, rest, text⟩
  rw [pieces, text, piecesFrom]
  split
  · simp [piecesFrom_ne_nil]
  · rcases exists_piecesFrom [character] rest with ⟨tail, others, shape⟩
    simp [shape]

theorem innerComponent?_name {name : String} (isName : IsName name) :
    innerComponent? name.toList = some (.name name) := by
  simp [innerComponent?, isName.nonempty, isName.notHere, isName.notAbove]

/-- The component that the first piece of a path says something of. -/
def firstComponent? (piece : List Char) : Option Component :=
  if piece = [] then some .root
  else if piece = ['.'] then some .here
  else innerComponent? piece

theorem componentsOfPieces_cons {first : List Char} {rest : List (List Char)}
    (notEmpty : first = [] → rest ≠ []) :
    componentsOfPieces (first :: rest) =
      (firstComponent? first).toList ++ rest.filterMap innerComponent? := by
  unfold componentsOfPieces
  split
  · simp_all
  · simp_all
  · simp_all [firstComponent?]
  · simp_all [firstComponent?]
  · next notRoot notHere shape =>
      injection shape with sameFirst sameRest
      subst sameFirst sameRest
      have relative : first ≠ [] := by
        rintro rfl
        exact notRoot rfl
      have inner : first ≠ ['.'] := by
        rintro rfl
        exact notHere rfl
      simp only [firstComponent?, relative, inner, if_false, List.filterMap_cons]
      cases innerComponent? first <;> rfl

theorem componentsOfPieces_concat_nil {pieces : List (List Char)} (nonempty : pieces ≠ [])
    (notEmpty : pieces ≠ [[]]) :
    componentsOfPieces (pieces ++ [[]]) = componentsOfPieces pieces := by
  rcases List.exists_cons_of_ne_nil nonempty with ⟨first, rest, rfl⟩
  have further : first = [] → rest ≠ [] := by
    rintro rfl rfl
    exact notEmpty rfl
  have noComponent : innerComponent? [] = none := by simp [innerComponent?]
  rw [List.cons_append, componentsOfPieces_cons (by simp), componentsOfPieces_cons further]
  simp [noComponent]

/-- Pieces behind others add nothing but the components that count behind the first. -/
theorem componentsOfPieces_append {front back : List (List Char)} (nonempty : front ≠ [])
    (further : back ≠ []) :
    componentsOfPieces (front ++ back) =
      componentsOfPieces (front ++ [[]]) ++ back.filterMap innerComponent? := by
  rcases List.exists_cons_of_ne_nil nonempty with ⟨first, rest, rfl⟩
  have noComponent : innerComponent? [] = none := by simp [innerComponent?]
  rw [List.cons_append, List.cons_append, componentsOfPieces_cons (by simp [further]),
    componentsOfPieces_cons (by simp)]
  simp [noComponent]

/-- The components of a path that lead somewhere; a dot names the directory that it stands in. -/
def moves (path : String) : List Component :=
  (components path).filter (· ≠ .here)

theorem innerComponent?_ne_here (piece : List Char) : innerComponent? piece ≠ some .here := by
  rw [innerComponent?]
  split
  · simp
  · split <;> simp

theorem filter_filterMap_innerComponent? (pieces : List (List Char)) :
    (pieces.filterMap innerComponent?).filter (· ≠ .here) = pieces.filterMap innerComponent? := by
  rw [List.filter_eq_self]
  intro component isComponent
  rcases List.mem_filterMap.mp isComponent with ⟨piece, -, isInner⟩
  rw [decide_eq_true_eq]
  rintro rfl
  exact innerComponent?_ne_here piece isInner

/-- Where a relative path leads is read off its pieces one by one. -/
theorem moves_eq_of_relative {path : String} (relative : isAbsolute path = false) :
    moves path = (pieces path).filterMap innerComponent? := by
  rw [moves, components, pieces]
  rcases text : path.toList with _ | ⟨character, rest⟩
  · rfl
  · have inside : character ≠ '/' := by
      simpa [isAbsolute, text] using relative
    rw [piecesFrom, if_neg inside, List.nil_append]
    rcases exists_piecesFrom [character] rest with ⟨tail, others, shape⟩
    rw [shape, componentsOfPieces_cons (by simp), List.filter_append,
      filter_filterMap_innerComponent?, List.filterMap_cons]
    by_cases isDot : [character] ++ tail = ['.']
    · rw [isDot]
      rfl
    · have first : firstComponent? ([character] ++ tail) = innerComponent? ([character] ++ tail) := by
        simp only [firstComponent?, isDot, if_false]
        simp
      rw [first]
      rcases inner : innerComponent? ([character] ++ tail) with _ | component
      · rfl
      · have notHere : component ≠ .here := by
          rintro rfl
          exact innerComponent?_ne_here _ inner
        simp [notHere]

/-- A relative path that is joined to a path leads on from where that one leads. -/
theorem components_join_of_relative {left right : String} (nonempty : left ≠ "")
    (relative : isAbsolute right = false) :
    components (join left right) = components left ++ moves right := by
  have further : pieces right ≠ [] := piecesFrom_ne_nil [] right.toList
  rw [moves_eq_of_relative relative]
  by_cases slash : left.toList.getLast? = some '/'
  · rcases List.getLast?_eq_some_iff.mp slash with ⟨stem, shape⟩
    have joined : (join left right).toList = stem ++ '/' :: right.toList := by
      simp [join, relative, shape]
    have behind : pieces (join left right) = piecesFrom [] stem ++ pieces right := by
      rw [pieces, joined, piecesFrom_append, pieces]
    have before : pieces left = piecesFrom [] stem ++ [[]] := by
      rw [pieces, shape, piecesFrom_append, piecesFrom]
    rw [components, behind, componentsOfPieces_append (piecesFrom_ne_nil [] stem) further, ← before,
      components]
  · have joined : (join left right).toList = left.toList ++ '/' :: right.toList := by
      simp [join, relative, slash, nonempty]
    have behind : pieces (join left right) = pieces left ++ pieces right := by
      rw [pieces, joined, piecesFrom_append, pieces, pieces]
    have front : pieces left ≠ [] := piecesFrom_ne_nil [] left.toList
    rw [components, behind, componentsOfPieces_append front further,
      componentsOfPieces_concat_nil front (pieces_ne_empty nonempty), components]

theorem not_isAbsolute_of_isName {name : String} (isName : IsName name) :
    isAbsolute name = false := by
  rcases List.exists_cons_of_ne_nil isName.nonempty with ⟨first, rest, shape⟩
  have whole := isName.whole
  simp only [shape, List.mem_cons, not_or] at whole
  simp [isAbsolute, shape, Ne.symm whole.1]

theorem components_name {name : String} (isName : IsName name) :
    components name = [.name name] := by
  have first : firstComponent? name.toList = some (.name name) := by
    simp [firstComponent?, isName.nonempty, isName.notHere, innerComponent?_name isName]
  rw [components, pieces, piecesFrom_of_notMem isName.whole, List.nil_append,
    componentsOfPieces_cons (fun isNil => absurd isNil isName.nonempty), first]
  rfl

theorem moves_name {name : String} (isName : IsName name) : moves name = [.name name] := by
  rw [moves, components_name isName]
  rfl

/-- A name that is joined to a path is its last component. -/
theorem components_join (left : String) {name : String} (isName : IsName name) :
    components (join left name) = components left ++ [.name name] := by
  have relative := not_isAbsolute_of_isName isName
  by_cases empty : left = ""
  · subst empty
    have joined : join "" name = name := by simp [join, relative]
    rw [joined, components_name isName]
    rfl
  · rw [components_join_of_relative empty relative, moves_name isName]

theorem location_join (left : String) {name : String} (isName : IsName name) :
    location (join left name) = location left ++ [name] := by
  simp [location, components_join left isName, step]

theorem isAbsolute_append {left : String} (nonempty : left ≠ "") (added : String) :
    isAbsolute (left ++ added) = isAbsolute left := by
  rcases List.exists_cons_of_ne_nil (mt String.toList_eq_nil_iff.mp nonempty) with
    ⟨first, rest, shape⟩
  simp [isAbsolute, shape]

theorem join_append (left added : String) {right : String} (nonempty : right ≠ "") :
    join left right ++ added = join left (right ++ added) := by
  simp only [join, isAbsolute_append nonempty]
  split
  · rfl
  · split <;> simp [String.append_assoc]

/-- Names that are joined one after the other are joined with a slash between them. -/
theorem join_join (left : String) {middle right : String} (isName : IsName middle)
    (relative : isAbsolute right = false) :
    join (join left middle) right = join left (middle ++ "/" ++ right) := by
  have nonempty : middle ≠ "" := mt String.toList_eq_nil_iff.mpr isName.nonempty
  have shape : ∃ front, (join left middle).toList = front ++ middle.toList := by
    simp only [join, not_isAbsolute_of_isName isName, Bool.false_eq_true, if_false]
    split
    · exact ⟨left.toList, by simp⟩
    · exact ⟨left.toList ++ ['/'], by simp⟩
  rcases shape with ⟨front, shape⟩
  have inside : (join left middle).toList.getLast? ≠ some '/' := by
    rw [shape, List.getLast?_append, List.getLast?_eq_some_getLast isName.nonempty, Option.some_or]
    intro slash
    exact isName.whole (Option.some.inj slash ▸ List.getLast_mem isName.nonempty)
  have notEmpty : join left middle ≠ "" := by
    intro empty
    rw [empty] at shape
    exact isName.nonempty (List.append_eq_nil_iff.mp shape.symm).2
  have joined : join (join left middle) right = join left middle ++ ("/" ++ right) := by
    rw [join]
    simp [relative, inside, notEmpty, String.append_assoc]
  rw [joined, join_append _ _ nonempty, String.append_assoc]

end Path

open MemoryKeeper.Path (Location IsName location_join)

/-- The ending of a draft's file name behind that of the memory. -/
def draftEnding : String := ".tmp"

theorem Symbol.isName_kind (symbol : Symbol) : IsName symbol.kind := by
  cases symbol <;> exact ⟨by decide, by decide, by decide, by decide⟩

theorem Symbol.kind_injective {left right : Symbol} (same : left.kind = right.kind) :
    left = right := by
  have found := Symbol.ofKind?_kind left
  rw [same, Symbol.ofKind?_kind] at found
  exact (Option.some.inj found).symm

theorem Slug.toList_ne_nil (slug : Slug) : slug.text.toList ≠ [] := by
  have wellFormed := slug.wellFormed
  simp only [isSlug, Bool.and_eq_true, Bool.not_eq_true', List.isEmpty_eq_false_iff] at wellFormed
  exact wellFormed.1

theorem Slug.isSlugChar_of_mem {slug : Slug} {character : Char}
    (present : character ∈ slug.text.toList) : isSlugChar character := by
  have wellFormed := slug.wellFormed
  simp only [isSlug, Bool.and_eq_true, List.all_eq_true] at wellFormed
  exact wellFormed.2 character present

namespace MemoryEntry

variable (entry : MemoryEntry)

theorem toList_fileName : entry.fileName.toList = entry.slug.text.toList ++ ['.', 'm', 'd'] := by
  simp [fileName, memoryEnding]

theorem isName_of_fileName_append {ending : String} (whole : '/' ∉ ending.toList) :
    IsName (entry.fileName ++ ending) := by
  have first := entry.slug.toList_ne_nil
  have slash : '/' ∉ entry.slug.text.toList := by
    intro present
    exact absurd (Slug.isSlugChar_of_mem present) (by decide)
  rcases List.exists_cons_of_ne_nil first with ⟨character, rest, shape⟩
  refine ⟨?_, ?_, ?_, ?_⟩
  · simp [toList_fileName]
  · simp [toList_fileName, slash, whole]
  · simp [toList_fileName, shape]
  · intro dots
    have short := congrArg List.length dots
    simp [toList_fileName, shape] at short
    omega

theorem isName_fileName : IsName entry.fileName := by
  have isName := entry.isName_of_fileName_append (by simp : '/' ∉ "".toList)
  simpa using isName

/-- The file name of a memory's draft. -/
def draftName : String :=
  entry.fileName ++ draftEnding

theorem isName_draftName : IsName entry.draftName :=
  entry.isName_of_fileName_append (by decide)

theorem fileName_injective {left right : MemoryEntry} (same : left.fileName = right.fileName) :
    left.slug = right.slug := by
  have sameText := congrArg String.toList same
  simp only [toList_fileName, List.append_cancel_right_eq] at sameText
  exact Slug.ext (String.toList_inj.mp sameText)

theorem relativePath_eq :
    entry.relativePath = "memories/" ++ entry.symbol.kind ++ "/" ++ entry.slug.text ++ ".md" := by
  have directory : memoriesName ++ "/" = "memories/" := by decide
  simp only [relativePath, names, fileName, memoryEnding, ← directory,
    String.intercalate_cons_cons, String.intercalate_singleton, String.append_assoc]

theorem pieces_relativePath :
    Path.pieces entry.relativePath =
      [memoriesName.toList, entry.symbol.kind.toList, entry.fileName.toList] := by
  have spelled : entry.relativePath.toList =
      memoriesName.toList ++ '/' :: (entry.symbol.kind.toList ++ '/' :: entry.fileName.toList) := by
    simp [relativePath, names, String.intercalate_cons_cons]
  have memories : '/' ∉ memoriesName.toList := by decide
  rw [Path.pieces, spelled, Path.piecesFrom_append, Path.piecesFrom_append,
    Path.piecesFrom_of_notMem memories, Path.piecesFrom_of_notMem entry.symbol.isName_kind.whole,
    Path.piecesFrom_of_notMem entry.isName_fileName.whole]
  rfl

theorem relativePath_injective {left right : MemoryEntry}
    (same : left.relativePath = right.relativePath) : left = right := by
  have pieces := congrArg Path.pieces same
  simp only [pieces_relativePath, List.cons.injEq, String.toList_inj, true_and, and_true] at pieces
  rcases left with ⟨symbol, slug⟩
  have sameSymbol : symbol = right.symbol := Symbol.kind_injective pieces.1
  have sameSlug : slug = right.slug := fileName_injective pieces.2
  rw [sameSymbol, sameSlug]

/-- The last letters tell the file names of memories, drafts and the lock from one another. -/
theorem getLast?_fileName : entry.fileName.toList.getLast? = some 'd' := by
  simp [toList_fileName]

theorem getLast?_draftName : entry.draftName.toList.getLast? = some 'p' := by
  simp [draftName, draftEnding]

end MemoryEntry

namespace Storage

variable (storage : Storage) (entry : MemoryEntry)

/-- The place of the work tree. -/
def root : Location :=
  Path.location storage.workDirectory

theorem symbolDirectory_eq (symbol : Symbol) :
    Path.location (storage.symbolDirectory symbol) =
      storage.root ++ [memoriesName, symbol.kind] := by
  have memories : IsName memoriesName := ⟨by decide, by decide, by decide, by decide⟩
  rw [symbolDirectory, memoriesDirectory, location_join _ symbol.isName_kind,
    location_join _ memories, root]
  simp

theorem place_eq :
    storage.place entry =
      storage.root ++ [memoriesName, entry.symbol.kind] ++ [entry.fileName] := by
  rw [place, memoryPath, location_join _ entry.isName_fileName, symbolDirectory_eq]

theorem draftPlace_eq :
    storage.draftPlace entry =
      storage.root ++ [memoriesName, entry.symbol.kind] ++ [entry.draftName] := by
  have nonempty : entry.fileName ≠ "" :=
    mt String.toList_eq_nil_iff.mpr entry.isName_fileName.nonempty
  have joined : storage.draftPath entry =
      Path.join (storage.symbolDirectory entry.symbol) entry.draftName :=
    Path.join_append _ _ nonempty
  rw [draftPlace, joined, location_join _ entry.isName_draftName, symbolDirectory_eq]

theorem lockPlace_eq :
    storage.lockPlace = Path.location storage.privateDirectory ++ ["lock"] := by
  have lock : IsName "lock" := ⟨by decide, by decide, by decide, by decide⟩
  rw [lockPlace, lockPath, location_join _ lock]

theorem place_injective {left right : MemoryEntry}
    (same : storage.place left = storage.place right) :
    left = right := by
  simp only [place_eq, List.append_assoc, List.append_cancel_left_eq, List.cons_append,
    List.nil_append, List.cons.injEq, and_true, true_and] at same
  rcases same with ⟨sameKind, sameName⟩
  rcases left with ⟨symbol, slug⟩
  have sameSymbol : symbol = right.symbol := Symbol.kind_injective sameKind
  have sameSlug : slug = right.slug := MemoryEntry.fileName_injective sameName
  rw [sameSymbol, sameSlug]

/-- Two places that end in names with different last letters differ. -/
theorem concat_ne_concat {front back : Location} {left right : String}
    (differ : left.toList.getLast? ≠ right.toList.getLast?) :
    front ++ [left] ≠ back ++ [right] := by
  intro same
  have sameName : left = right := by simpa using congrArg List.getLast? same
  exact differ (by rw [sameName])

theorem place_ne_draftPlace (other : MemoryEntry) :
    storage.place entry ≠ storage.draftPlace other := by
  rw [place_eq, draftPlace_eq]
  exact concat_ne_concat (by simp [MemoryEntry.getLast?_fileName, MemoryEntry.getLast?_draftName])

theorem place_ne_lockPlace : storage.place entry ≠ storage.lockPlace := by
  rw [place_eq, lockPlace_eq]
  apply concat_ne_concat
  rw [MemoryEntry.getLast?_fileName]
  decide

theorem draftPlace_ne_lockPlace : storage.draftPlace entry ≠ storage.lockPlace := by
  rw [draftPlace_eq, lockPlace_eq]
  apply concat_ne_concat
  rw [MemoryEntry.getLast?_draftName]
  decide

end Storage

end MemoryKeeper

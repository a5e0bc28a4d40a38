import MemoryKeeper.Proofs.Listings

/-!
# Paths that stay below the memories

A path given from outside names something below the directory of memories exactly
if it is relative, never goes upwards and leads through that directory first.
What it names is then reached from the work tree along the path's own components,
and on the way from the directory of memories no component leads out of it.

A dot at the beginning of a path is a component, but it leads nowhere, and it is
none in the middle of the path that the work tree's own path begins. So what
counts are the components other than dots.
-/

namespace MemoryKeeper

namespace Path

variable {directory path rest : List Component}

theorem below?_eq_some_iff : below? directory path = some rest ↔ path = directory ++ rest := by
  induction directory generalizing path with
  | nil => simp [below?]
  | cons expected directory ih =>
      cases path with
      | nil => simp [below?]
      | cons component path =>
          by_cases same : expected = component
          · simp [below?, same, ih]
          · simp [below?, same, Ne.symm same]

theorem moves_eq_self {path : String} (noDot : .here ∉ components path) :
    moves path = components path := by
  rw [moves, List.filter_eq_self]
  intro component passed
  simpa using ne_of_mem_of_not_mem passed noDot

theorem ne_empty_of_isAbsolute {path : String} (absolute : isAbsolute path) : path ≠ "" := by
  rintro rfl
  cases absolute

/-- A relative path that never goes upwards leads from name to name. -/
theorem exists_name_of_mem_moves {path : String} (relative : isAbsolute path = false)
    (inward : .above ∉ components path) {component : Component} (passed : component ∈ moves path) :
    ∃ text, component = .name text := by
  cases component with
  | name text => exact ⟨text, rfl⟩
  | above => exact absurd (List.mem_of_mem_filter passed) inward
  | here => simp [moves] at passed
  | root =>
      rw [moves_eq_of_relative relative] at passed
      rcases List.mem_filterMap.mp passed with ⟨piece, -, isRoot⟩
      rw [innerComponent?] at isRoot
      split at isRoot
      · cases isRoot
      · split at isRoot <;> cases isRoot

/-- Names lead downwards only. -/
theorem prefix_foldl_step (areNames : ∀ component ∈ path, ∃ text, component = .name text)
    (place : Location) : place <+: path.foldl step place := by
  induction path generalizing place with
  | nil => exact List.prefix_rfl
  | cons component path ih =>
      rw [List.forall_mem_cons] at areNames
      rcases areNames with ⟨⟨text, rfl⟩, others⟩
      exact (List.prefix_append place [text]).trans (ih others (place ++ [text]))

end Path

namespace Storage

open MemoryKeeper.Path (moves)

variable {storage : Storage} {path whole : String}

theorem isName_memoriesName : Path.IsName memoriesName :=
  ⟨by decide, by decide, by decide, by decide⟩

theorem components_memoriesDirectory (storage : Storage) :
    Path.components storage.memoriesDirectory =
      Path.components storage.workDirectory ++ [.name memoriesName] :=
  Path.components_join _ isName_memoriesName

/-- Where a path that is joined to the work tree leads behind the directory of memories. -/
theorem componentsBelow?_join (absolute : Path.isAbsolute storage.workDirectory)
    (relative : Path.isAbsolute path = false) :
    Path.componentsBelow? storage.memoriesDirectory (Path.join storage.workDirectory path) =
      Path.below? [.name memoriesName] (moves path) := by
  rw [Path.componentsBelow?, components_memoriesDirectory,
    Path.components_join_of_relative (Path.ne_empty_of_isAbsolute absolute) relative, below?_append]

theorem isInward_iff :
    isInward path ↔ Path.isAbsolute path = false ∧ .above ∉ Path.components path := by
  simp [isInward]

theorem memoryFile?_eq_some_iff (absolute : Path.isAbsolute storage.workDirectory) :
    storage.memoryFile? path = some whole ↔
      isInward path ∧ (moves path).head? = some (.name memoriesName) ∧
        whole = Path.join storage.workDirectory path := by
  simp only [memoryFile?, Option.ite_none_right_eq_some, Bool.and_eq_true, Option.some.injEq,
    and_assoc]
  apply and_congr_right
  intro inward
  rw [componentsBelow?_join absolute (isInward_iff.mp inward).1, Option.isSome_iff_exists,
    List.head?_eq_some_iff]
  simp only [Path.below?_eq_some_iff, List.cons_append, List.nil_append]
  exact and_congr_right fun _ => eq_comm

/-- A path given from outside names something below the directory of memories or nothing. What it
names has the components of the path, apart from a dot that the path begins with. -/
theorem memoryFile?_stays_below_memories (storage : Storage)
    (absolute : Path.isAbsolute storage.workDirectory) (path : String) :
    (∀ whole, storage.memoryFile? path = some whole ↔
      Path.isAbsolute path = false ∧ .above ∉ Path.components path ∧
        (moves path).head? = some (.name "memories") ∧
        whole = Path.join storage.workDirectory path) ∧
    ∀ whole, storage.memoryFile? path = some whole →
      Path.components whole = Path.components storage.workDirectory ++ moves path ∧
      (.here ∉ Path.components path →
        Path.components whole = Path.components storage.workDirectory ++ Path.components path) ∧
      Path.components storage.workDirectory ++ [.name "memories"] <+: Path.components whole ∧
      ∀ way, Path.components storage.workDirectory ++ [.name "memories"] <+: way →
        way <+: Path.components whole →
        Path.location storage.workDirectory ++ ["memories"] <+: way.foldl Path.step [] := by
  constructor
  · intro whole
    rw [memoryFile?_eq_some_iff absolute, isInward_iff, and_assoc]
    rfl
  · intro whole named
    rcases (memoryFile?_eq_some_iff absolute).mp named with ⟨inward, first, rfl⟩
    rcases isInward_iff.mp inward with ⟨relative, noAbove⟩
    rcases List.head?_eq_some_iff.mp first with ⟨names, shape⟩
    have joined := Path.components_join_of_relative (Path.ne_empty_of_isAbsolute absolute) relative
    refine ⟨joined, fun noDot => by rw [joined, Path.moves_eq_self noDot], ⟨names, ?_⟩, ?_⟩
    · rw [joined, shape, List.append_assoc]
      rfl
    · rintro way ⟨passed, rfl⟩ ⟨missing, isWhole⟩
      have split : passed ++ missing = names := by
        rw [joined, shape, List.append_assoc, List.append_assoc] at isWhole
        simpa [memoriesName] using isWhole
      have areNames : ∀ component ∈ passed, ∃ text, component = .name text := by
        intro component isPassed
        apply Path.exists_name_of_mem_moves relative noAbove
        rw [shape, ← split]
        simp [isPassed]
      rw [List.foldl_append, List.foldl_append]
      exact Path.prefix_foldl_step areNames _

/-- A path that begins with a dot, repeats slashes and names a sibling's name further down. -/
theorem memoryFile?_stays_below_memories_of_dots :
    let storage : Storage := ⟨"/repo/.git", "/repo/"⟩
    let path := ".//memories/./memories-old//x.md/"
    Path.isAbsolute storage.workDirectory ∧
      storage.memoryFile? path = some "/repo/.//memories/./memories-old//x.md/" ∧
      Path.components "/repo/.//memories/./memories-old//x.md/" =
        [.root, .name "repo", .name "memories", .name "memories-old", .name "x.md"] := by
  intro storage path
  have absolute : Path.isAbsolute storage.workDirectory := by decide
  have contained := memoryFile?_stays_below_memories storage absolute path
  have named : storage.memoryFile? path = some "/repo/.//memories/./memories-old//x.md/" :=
    (contained.1 _).mpr ⟨by decide, by decide, by decide, by decide⟩
  exact ⟨absolute, named, (contained.2 _ named).1.trans (by decide)⟩

/-- The dot that a path begins with is one of its components, but none of the components of what the
path names. -/
theorem memoryFile?_loses_leading_dot :
    let storage : Storage := ⟨"/repo/.git", "/repo"⟩
    Path.isAbsolute storage.workDirectory ∧
      storage.memoryFile? "./memories/x.md" = some "/repo/./memories/x.md" ∧
      Path.components "./memories/x.md" = [.here, .name "memories", .name "x.md"] ∧
      Path.components "/repo/./memories/x.md" =
        [.root, .name "repo", .name "memories", .name "x.md"] ∧
      Path.components "/repo/./memories/x.md" ≠
        Path.components storage.workDirectory ++ Path.components "./memories/x.md" := by
  decide

end Storage

end MemoryKeeper

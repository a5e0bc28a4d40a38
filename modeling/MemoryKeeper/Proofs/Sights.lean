import MemoryKeeper.Proofs.Listings

/-!
# What can be seen of files

Nobody who looks at files sees who holds them, or in which order the entries of
a directory were made. What is found at a place, an item or an error, depends
only on the items at that place and above it. So trees with the same items are
the same to everybody who reads a file, follows a path, or asks for the current
commit.
-/

namespace MemoryKeeper

open MemoryKeeper.Path (Location)

namespace FileTree

/-- What is found at a place: an item, or the error that looking for it ends with. -/
def sight (tree : FileTree) (place : Location) : Except OsError Item :=
  (tree.find place).map item

section Sights

variable {left right : FileTree} {place : Location}

/-- Both trees have a file there, or a directory, or neither has anything, for the same cause. -/
theorem find_of_sight (seen : left.sight place = right.sight place) :
    (∃ failure, left.find place = .error failure ∧ right.find place = .error failure) ∨
      (∃ content one other, left.find place = .ok (.file content one) ∧
        right.find place = .ok (.file content other)) ∨
      ∃ one other, left.find place = .ok (.directory one) ∧
        right.find place = .ok (.directory other) := by
  simp only [sight] at seen
  generalize left.find place = one, right.find place = other at seen ⊢
  rcases one with failure | (⟨content, holder⟩ | entries) <;>
    rcases other with failureToo | (⟨contentToo, holderToo⟩ | entriesToo) <;>
    simp_all [Except.map, item]

theorem sight_congr (same : ∀ above, above <+: place → left.item? above = right.item? above) :
    left.sight place = right.sight place := by
  induction place generalizing left right with
  | nil =>
      have here := same [] List.prefix_rfl
      simp only [item?_nil, Option.some.injEq] at here
      exact congrArg Except.ok here
  | cons name rest ih =>
      have here := same [] List.nil_prefix
      have below := same [name] (List.prefix_append [name] rest)
      cases left with
      | file content holder =>
          cases right with
          | file contentToo holderToo => rfl
          | directory entries => simp [item] at here
      | directory entries =>
          cases right with
          | file content holder => simp [item] at here
          | directory entriesToo =>
              simp only [item?_directory] at below
              simp only [sight, find]
              rcases one : entries.lookup name with _ | child <;>
                rcases other : entriesToo.lookup name with _ | childToo
              · rfl
              · simp [one, other] at below
              · simp [one, other] at below
              · apply ih
                intro above inside
                have deeper := same (name :: above) (List.cons_prefix_cons.mpr ⟨rfl, inside⟩)
                simpa [item?_directory, one, other] using deeper

theorem readText_congr (seen : left.sight place = right.sight place) :
    left.readText place = right.readText place := by
  rcases find_of_sight seen with
    ⟨failure, one, other⟩ | ⟨content, holder, holderToo, one, other⟩ |
      ⟨entries, entriesToo, one, other⟩
  · rw [readText, readText, one, other]
  · rw [readText, readText, one, other]
    rfl
  · rw [readText, readText, one, other]
    rfl

/-- A file stands where reading comes to a text or to octets that are no text. -/
theorem isFile_of_readText (same : left.readText place = right.readText place) :
    left.isFile place = right.isFile place := by
  simp only [readText, isFile] at same ⊢
  generalize left.find place = one, right.find place = other at same ⊢
  have noFailure : ∀ content failure, text (.file content none) ≠ .error (.os failure) := by
    intro content failure
    simp only [text, bytes]
    split <;> simp
  rcases one with failure | (⟨content, holder⟩ | entries) <;>
    rcases other with failureToo | (⟨contentToo, holderToo⟩ | entriesToo)
  · rfl
  · exact absurd same.symm (noFailure contentToo failure)
  · rfl
  · exact absurd same (noFailure content failureToo)
  · rfl
  · exact absurd same (noFailure content .isADirectory)
  · rfl
  · exact absurd same.symm (noFailure contentToo .isADirectory)
  · rfl

end Sights

section Alike

variable {left right : FileTree} (same : left.item? = right.item?)

include same

theorem sight_eq_of_items (place : Location) : left.sight place = right.sight place :=
  sight_congr fun above _ => congrFun same above

theorem follow_congr (upwards : Location) (components : List Path.Component) :
    left.follow upwards components = right.follow upwards components := by
  induction components generalizing upwards with
  | nil => rfl
  | cons component components ih =>
      simp only [follow]
      rcases find_of_sight (sight_eq_of_items same upwards.reverse) with
        ⟨failure, one, other⟩ | ⟨content, holder, holderToo, one, other⟩ |
          ⟨entries, entriesToo, one, other⟩
      · simp only [one, other]
      · simp only [one, other]
      · simp only [one, other]
        cases component with
        | root => exact ih _
        | here => exact ih _
        | above => exact ih _
        | name text => exact ih _

theorem locate_congr (directory path : String) :
    left.locate directory path = right.locate directory path := by
  simp only [locate, follow_congr same]
  rcases right.follow [] (Path.components (Path.join directory path)) with failure | place
  · rfl
  · simp only [bind, Except.bind]
    rcases find_of_sight (sight_eq_of_items same place) with
      ⟨failure, one, other⟩ | ⟨content, holder, holderToo, one, other⟩ |
        ⟨entries, entriesToo, one, other⟩
    · simp only [one, other]
    · simp only [one, other]
    · simp only [one, other]

end Alike

/-- Who takes a file leaves every item as it is. -/
theorem items_of_hold? {tree changed : FileTree} {holder : Holder} {place : Location}
    (held : tree.hold? holder place = some changed) : changed.item? = tree.item? := by
  simp only [hold?] at held
  split at held
  · next content found =>
      rcases outcome : alterFile (fun content _ => .file content (some holder)) place tree with
        _ | edited
      · simp [outcome, Except.toOption] at held
      · have made : edited = changed := by simpa [outcome, Except.toOption] using held
        subst made
        have present : tree.item? place = some (.file content) := by
          simp [item?, standing?, found, Except.toOption, item]
        have bytes : tree.fileAt? place = some content := by rw [fileAt?, present]; rfl
        rw [(items_of_alterFile id (fun _ _ => rfl) outcome).2, bytes]
        exact Function.update_eq_self_iff.mpr present.symm
  · cases held

end FileTree

namespace Git

variable {left right : FileTree} (same : left.item? = right.item?)

include same

theorem content?_congr (place : Location) : content? left place = content? right place := by
  rcases FileTree.find_of_sight (FileTree.sight_eq_of_items same place) with
    ⟨failure, one, other⟩ | ⟨content, holder, holderToo, one, other⟩ |
      ⟨entries, entriesToo, one, other⟩
  · simp only [content?, one, other]
  · simp only [content?, one, other]
  · simp only [content?, one, other]

theorem target?_congr (directory : Location) (path : String) :
    target? left directory path = target? right directory path := by
  rw [target?, target?, FileTree.locate_congr same]

namespace ReferenceStore

variable (store : ReferenceStore)

theorem find_congr : store.find left = store.find right := by
  have contents : content? left = content? right := funext (content?_congr same)
  funext name
  delta find
  dsimp only
  rw [target?_congr same, contents]

theorem hasPacks_congr : store.hasPacks left = store.hasPacks right := by
  have here := FileTree.sight_eq_of_items same (store.common ++ ["objects", "pack"])
  rcases FileTree.find_of_sight here with
    ⟨failure, one, other⟩ | ⟨content, holder, holderToo, one, other⟩ |
      ⟨entries, entriesToo, one, other⟩
  · simp only [hasPacks, one, other]
  · simp only [hasPacks, one, other, FileTree.names]
  · have names : ∀ name, name ∈ (FileTree.directory entries).names ↔
        name ∈ (FileTree.directory entriesToo).names := by
      intro name
      have below := congrFun same (store.common ++ ["objects", "pack"] ++ [name])
      rw [FileTree.item?_append, FileTree.item?_append, FileTree.standing?, FileTree.standing?,
        one, other] at below
      have below : (FileTree.directory entries).item? [name] =
          (FileTree.directory entriesToo).item? [name] := below
      rw [FileTree.mem_names, FileTree.mem_names, below]
    simp only [hasPacks, one, other]
    rw [Bool.eq_iff_iff, List.any_eq_true, List.any_eq_true]
    simp only [names]

theorem commit_congr : store.commit left = store.commit right := by
  have files : ∀ place, left.isFile place = right.isFile place := by
    intro place
    rw [FileTree.isFile_eq_isSome, FileTree.isFile_eq_isSome, FileTree.fileAt?, FileTree.fileAt?,
      same]
  funext identifier
  rw [commit, commit, holds, holds, files, hasPacks_congr same]

/-- Names are followed through these two functions alone, however often. -/
theorem resolve_congr : store.resolve left = store.resolve right := by
  delta resolve resolve._f
  rw [find_congr same, commit_congr same]

theorem head_congr : store.head left = store.head right := by
  delta head
  rw [find_congr same, commit_congr same, resolve_congr same]

end ReferenceStore

end Git

end MemoryKeeper

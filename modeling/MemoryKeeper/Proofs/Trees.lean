import MemoryKeeper.Files.Tree
import Mathlib.Logic.Function.Basic

/-!
# What stands where

A file tree is seen as a map from places to items, files with their bytes and
directories. Above an item there are only directories. Every change that a
command makes is known by what it does to this map: a change of a file changes
the map at the file's place only, and new directories change it only where
directories were asked for.
-/

namespace MemoryKeeper

open MemoryKeeper.Path (Location)

/-- What stands at a place, without what is below it. -/
inductive Item where
  | file (content : ByteArray)
  | directory

/-- The bytes of a file. -/
def Item.content? : Item → Option ByteArray
  | .file content => some content
  | .directory => none

namespace FileTree

/-- The item that a tree is. -/
def item : FileTree → Item
  | .file content _ => .file content
  | .directory _ => .directory

/-- The tree that stands at a place. -/
def standing? (tree : FileTree) (place : Location) : Option FileTree :=
  (tree.find place).toOption

/-- The item that stands at a place. -/
def item? (tree : FileTree) (place : Location) : Option Item :=
  (tree.standing? place).map item

/-- The bytes of the file that stands at a place. -/
def fileAt? (tree : FileTree) (place : Location) : Option ByteArray :=
  (tree.item? place).bind Item.content?

/-- Whether a tree is no directory, or there is none. -/
def isLeaf (tree : Option FileTree) : Prop :=
  tree.map item ≠ some .directory

@[simp]
theorem standing?_nil (tree : FileTree) : tree.standing? [] = some tree := by
  simp [standing?, find, Except.toOption]

@[simp]
theorem standing?_file (content : ByteArray) (holder : Option Holder) (name : String)
    (rest : Location) : (file content holder).standing? (name :: rest) = none := by
  simp [standing?, find, Except.toOption]

@[simp]
theorem standing?_directory (entries : List (String × FileTree)) (name : String)
    (rest : Location) :
    (directory entries).standing? (name :: rest) =
      (entries.lookup name).bind (·.standing? rest) := by
  rw [standing?, find]
  cases entries.lookup name <;> rfl

theorem standing?_append (tree : FileTree) (place rest : Location) :
    tree.standing? (place ++ rest) = (tree.standing? place).bind (·.standing? rest) := by
  induction place generalizing tree with
  | nil => simp
  | cons name place ih =>
      cases tree with
      | file content holder => simp
      | directory entries =>
          rw [List.cons_append, standing?_directory, standing?_directory, Option.bind_assoc]
          congr 1
          funext child
          exact ih child

theorem lookup_filter_ne (name other : String) (entries : List (String × FileTree)) :
    (entries.filter fun entry => entry.1 ≠ name).lookup other =
      if other = name then none else entries.lookup other := by
  induction entries with
  | nil => simp
  | cons entry entries ih =>
      rcases entry with ⟨key, tree⟩
      by_cases isKey : other = key
      · subst isKey
        by_cases removed : other = name
        · simpa [removed] using ih
        · simp [removed]
      · have skipped : (other == key) = false := by simpa using isKey
        by_cases removed : key = name
        · subst removed
          simpa [List.lookup_cons, skipped, isKey] using ih
        · simp only [List.filter_cons, decide_not, ne_eq, removed, decide_false, Bool.not_false,
            if_true, List.lookup_cons, skipped]
          simpa using ih

theorem lookup_rebind (name other : String) (child : Option FileTree)
    (entries : List (String × FileTree)) :
    (rebind name child entries).lookup other =
      if other = name then child else entries.lookup other := by
  unfold rebind
  split
  · next tree =>
      by_cases bound : other = name
      · simp [bound]
      · have skipped : (other == name) = false := by simpa using bound
        rw [List.lookup_cons, skipped]
        simpa [bound] using lookup_filter_ne name other entries
  · simpa using lookup_filter_ne name other entries

variable {edit : Option FileTree → Except OsError (Option FileTree)} {place : Location}
  {tree changed : FileTree}

@[simp]
theorem item?_nil (tree : FileTree) : tree.item? [] = some tree.item := by
  simp [item?]

@[simp]
theorem item?_file (content : ByteArray) (holder : Option Holder) (name : String)
    (rest : Location) : (file content holder).item? (name :: rest) = none := by
  simp [item?]

@[simp]
theorem item?_directory (entries : List (String × FileTree)) (name : String)
    (rest : Location) :
    (directory entries).item? (name :: rest) =
      (entries.lookup name).bind (·.item? rest) := by
  rw [item?, standing?_directory]
  cases entries.lookup name <;> rfl

/-- A change of one entry of a directory changes the items below that entry. -/
theorem item?_rebind (name : String) (child : Option FileTree)
    (entries : List (String × FileTree)) (other : Location) :
    (directory (rebind name child entries)).item? other =
      if [name] <+: other then child.bind (·.item? (other.drop 1))
      else (directory entries).item? other := by
  cases other with
  | nil => simp [item]
  | cons first rest =>
      simp only [item?_directory, lookup_rebind, List.cons_prefix_cons, List.nil_prefix, and_true,
        List.drop_succ_cons, List.drop_zero, eq_comm]
      split <;> rfl

/-- An edit replaces what stands at its place; the items elsewhere stay. -/
theorem item?_alter (altered : alter edit place tree = .ok changed) :
    ∃ child, edit (tree.standing? place) = .ok child ∧ ∀ other, changed.item? other =
      if place <+: other then child.bind (·.item? (other.drop place.length))
      else tree.item? other := by
  induction place generalizing tree changed with
  | nil => simp [alter] at altered
  | cons name rest ih =>
      cases tree with
      | file content holder => simp [alter] at altered
      | directory entries =>
          cases rest with
          | nil =>
              cases outcome : edit (entries.lookup name) with
              | error failure => simp [alter, outcome, Except.map] at altered
              | ok child =>
                  simp only [alter, outcome, Except.map, Except.ok.injEq] at altered
                  subst altered
                  refine ⟨child, ?_, ?_⟩
                  · simpa using outcome
                  · intro other
                    exact item?_rebind name child entries other
          | cons second rest =>
              cases found : entries.lookup name with
              | none => simp [alter, found] at altered
              | some below =>
                  cases deeper : alter edit (second :: rest) below with
                  | error failure => simp [alter, found, deeper, Except.map] at altered
                  | ok child =>
                      simp only [alter, found, deeper, Except.map, Except.ok.injEq] at altered
                      subst altered
                      rcases ih deeper with ⟨edited, accepted, inside⟩
                      refine ⟨edited, ?_, ?_⟩
                      · rw [standing?_directory, found]
                        exact accepted
                      · intro other
                        rw [item?_rebind]
                        cases other with
                        | nil => simp
                        | cons first others =>
                            by_cases same : name = first
                            · subst same
                              simp [inside others, found]
                            · simp [same]

theorem item?_append (tree : FileTree) (place rest : Location) :
    tree.item? (place ++ rest) = (tree.standing? place).bind (·.item? rest) := by
  rw [item?, standing?_append]
  cases tree.standing? place <;> rfl

/-- Nothing stands below anything but a directory. -/
theorem item?_of_isLeaf {child : Option FileTree} (leaf : isLeaf child) {rest : Location}
    (below : rest ≠ []) : child.bind (·.item? rest) = none := by
  rcases List.exists_cons_of_ne_nil below with ⟨name, others, rfl⟩
  cases child with
  | none => rfl
  | some node =>
      cases node with
      | file content holder => simp
      | directory entries => exact absurd rfl leaf

theorem isLeaf_standing? {tree : FileTree} {place : Location} :
    isLeaf (tree.standing? place) ↔ tree.item? place ≠ some .directory :=
  Iff.rfl

/-- Above anything that stands there is a directory. -/
theorem isDirectory_above {tree : FileTree} {place rest : Location} (below : rest ≠ [])
    (present : tree.item? (place ++ rest) ≠ none) : tree.item? place = some .directory := by
  by_contra other
  exact present (by rw [item?_append, item?_of_isLeaf (isLeaf_standing?.mpr other) below])

/-- An edit that turns a file or nothing into a file or nothing changes one item. -/
theorem item?_alter_leaf (altered : alter edit place tree = .ok changed)
    (before : tree.item? place ≠ some .directory)
    (after : ∀ child, edit (tree.standing? place) = .ok child → isLeaf child) :
    ∃ child, edit (tree.standing? place) = .ok child ∧
      changed.item? = Function.update tree.item? place (child.map item) := by
  rcases item?_alter altered with ⟨child, accepted, items⟩
  refine ⟨child, accepted, ?_⟩
  funext other
  rw [items other]
  by_cases inside : place <+: other
  · rcases inside with ⟨rest, rfl⟩
    rw [if_pos (List.prefix_append place rest), List.drop_left]
    by_cases here : rest = []
    · subst here
      rw [List.append_nil, Function.update_self]
      cases child <;> simp
    · have elsewhere : place ++ rest ≠ place := by simpa using here
      rw [Function.update_of_ne elsewhere, item?_append,
        item?_of_isLeaf (isLeaf_standing?.mpr before) here,
        item?_of_isLeaf (after child accepted) here]
  · have elsewhere : other ≠ place := by
      rintro rfl
      exact inside (List.prefix_refl other)
    rw [if_neg inside, Function.update_of_ne elsewhere]

/-- An edit is made where a directory stands around its place, unless the edit itself refuses. -/
theorem alter_succeeds {front : Location} {name : String} (child : Option FileTree)
    (around : tree.item? front = some .directory)
    (accepted : edit (tree.standing? (front ++ [name])) = .ok child) :
    ∃ changed, alter edit (front ++ [name]) tree = .ok changed := by
  induction front generalizing tree with
  | nil =>
      cases tree with
      | file content holder => simp [item] at around
      | directory entries =>
          have outcome : edit (entries.lookup name) = .ok child := by simpa using accepted
          exact ⟨.directory (rebind name child entries), by simp [alter, outcome, Except.map]⟩
  | cons first front ih =>
      cases tree with
      | file content holder => simp at around
      | directory entries =>
          cases found : entries.lookup first with
          | none => simp [found] at around
          | some below =>
              have inside : below.item? front = some .directory := by
                simpa [found] using around
              rcases ih inside (by simpa [found] using accepted) with ⟨changed, deeper⟩
              rcases List.exists_cons_of_ne_nil (List.append_ne_nil_of_right_ne_nil front
                (List.cons_ne_nil name [])) with ⟨second, rest, shape⟩
              rw [shape] at deeper
              rw [List.cons_append, shape]
              exact ⟨.directory (rebind first (some changed) entries),
                by simp [alter, found, deeper, Except.map]⟩

theorem isFile_iff : tree.isFile place ↔ ∃ content, tree.item? place = some (.file content) := by
  simp only [isFile, item?, standing?]
  rcases tree.find place with failure | (⟨content, holder⟩ | entries) <;>
    simp [Except.toOption, item]

theorem isDirectory_iff : tree.isDirectory place ↔ tree.item? place = some .directory := by
  simp only [isDirectory, item?, standing?]
  rcases tree.find place with failure | (⟨content, holder⟩ | entries) <;>
    simp [Except.toOption, item]

theorem fileAt?_eq_some_iff {content : ByteArray} :
    tree.fileAt? place = some content ↔ tree.item? place = some (.file content) := by
  rw [fileAt?]
  rcases tree.item? place with _ | _ | _ <;> simp [Item.content?]

theorem isFile_eq_isSome : tree.isFile place = (tree.fileAt? place).isSome := by
  rw [Bool.eq_iff_iff, isFile_iff, Option.isSome_iff_exists]
  simp only [fileAt?_eq_some_iff]

theorem readText_eq {content : ByteArray} (present : tree.fileAt? place = some content) :
    tree.readText place =
      match Text.decode? content with
      | some text => .ok text
      | none => .error .invalidText := by
  rw [fileAt?_eq_some_iff, item?, standing?] at present
  rw [readText]
  rcases found : tree.find place with failure | (⟨bytes, holder⟩ | entries)
  · simp [found, Except.toOption] at present
  · have same : bytes = content := by simpa [found, Except.toOption, item] using present
    subst same
    rfl
  · simp [found, Except.toOption, item] at present

/-- Where nothing stands an edit must accept that. -/
theorem accepts_none (altered : alter edit place tree = .ok changed)
    (absent : tree.item? place = none) : ∃ child, edit none = .ok child := by
  rcases item?_alter altered with ⟨child, accepted, -⟩
  rw [item?, Option.map_eq_none_iff] at absent
  rw [absent] at accepted
  exact ⟨child, accepted⟩

/-- The bytes of a tree that is a file. -/
def content? (tree : Option FileTree) : Option ByteArray :=
  (tree.map item).bind Item.content?

/-- An edit that refuses directories, and the bytes that it leaves of a file or of nothing. -/
structure EditsFile (edit : Option FileTree → Except OsError (Option FileTree))
    (result : Option ByteArray → Option ByteArray) : Prop where
  refuses : ∀ entries child, edit (some (.directory entries)) ≠ .ok child
  writes : ∀ before child, edit before = .ok child →
    child.map item = (result (content? before)).map .file

theorem items_of_alter (result : Option ByteArray → Option ByteArray)
    (edits : EditsFile edit result)
    (altered : alter edit place tree = .ok changed) :
    tree.item? place ≠ some .directory ∧
      changed.item? =
        Function.update tree.item? place ((result (tree.fileAt? place)).map .file) := by
  rcases item?_alter altered with ⟨child, accepted, -⟩
  have before : tree.item? place ≠ some .directory := by
    intro present
    rw [item?] at present
    rcases found : tree.standing? place with _ | (⟨content, holder⟩ | entries)
    · simp [found] at present
    · simp [found, item] at present
    · exact edits.refuses entries child (by rw [← found]; exact accepted)
  have after : ∀ child, edit (tree.standing? place) = .ok child → isLeaf child := by
    intro child accepted
    rw [isLeaf, edits.writes _ _ accepted]
    cases result (content? (tree.standing? place)) <;> simp
  rcases item?_alter_leaf altered before after with ⟨child, accepted, items⟩
  refine ⟨before, ?_⟩
  rw [items, edits.writes _ _ accepted]
  rfl

theorem fileAt?_eq_comp (tree : FileTree) :
    tree.fileAt? = (fun item => item.bind Item.content?) ∘ tree.item? :=
  rfl

theorem fileAt?_of_items {content : Option ByteArray}
    (items : changed.item? = Function.update tree.item? place (content.map .file)) :
    changed.fileAt? = Function.update tree.fileAt? place content := by
  rw [fileAt?_eq_comp, items, Function.comp_update, ← fileAt?_eq_comp]
  cases content <;> rfl

section Edits

variable {front : Location} {name : String}

theorem items_of_alterFile {write : ByteArray → Option Holder → FileTree}
    (written : ByteArray → ByteArray)
    (writes : ∀ content holder, (write content holder).item = .file (written content))
    (altered : alterFile write place tree = .ok changed) :
    tree.item? place ≠ some .directory ∧
      changed.item? = Function.update tree.item? place
        (some (.file (written ((tree.fileAt? place).getD .empty)))) := by
  refine items_of_alter (fun before => some (written (before.getD .empty))) ⟨by simp, ?_⟩ altered
  rintro (_ | ⟨content, holder⟩ | entries) child accepted
  · simp only at accepted
    split at accepted
    · injection accepted with made
      subst made
      simp [writes, content?]
    · contradiction
  · injection accepted with made
    subst made
    have bytes : content? (some (.file content holder)) = some content := rfl
    simp [writes, bytes]
  · contradiction

/-- A name that is too long is not given to a new file. -/
theorem fits_of_alterFile {write : ByteArray → Option Holder → FileTree}
    (altered : alterFile write place tree = .ok changed) (absent : tree.item? place = none) :
    fits place := by
  rcases accepts_none altered absent with ⟨child, accepted⟩
  by_contra tooLong
  simp [tooLong] at accepted

theorem items_of_createFile (created : createFile place tree = .ok changed) :
    tree.item? place ≠ some .directory ∧
      changed.item? = Function.update tree.item? place (some (.file .empty)) :=
  items_of_alterFile (fun _ => .empty) (fun _ _ => rfl) created

theorem items_of_openFile (opened : openFile place tree = .ok changed) :
    tree.item? place ≠ some .directory ∧
      changed.item? = Function.update tree.item? place
        (some (.file ((tree.fileAt? place).getD .empty))) :=
  items_of_alterFile id (fun _ _ => rfl) opened

theorem items_of_append {added : ByteArray} (appended : append added place tree = .ok changed) :
    changed.item? = Function.update tree.item? place
      (((tree.fileAt? place).map (· ++ added)).map .file) := by
  refine (items_of_alter (Option.map (· ++ added)) ⟨by simp, ?_⟩ appended).2
  rintro (_ | ⟨content, holder⟩ | entries) child accepted
  · contradiction
  · injection accepted with made
    subst made
    rfl
  · contradiction

theorem items_of_removeFile (removed : removeFile place tree = .ok changed) :
    tree.item? place ≠ none ∧ tree.item? place ≠ some .directory ∧
      changed.item? = Function.update tree.item? place none := by
  have present : tree.item? place ≠ none := by
    intro absent
    rcases accepts_none removed absent with ⟨child, accepted⟩
    contradiction
  refine ⟨present, items_of_alter (fun _ => none) ⟨by simp, ?_⟩ removed⟩
  rintro (_ | ⟨content, holder⟩ | entries) child accepted
  · contradiction
  · injection accepted with made
    subst made
    rfl
  · contradiction

/-- A file that is moved takes its bytes along. -/
theorem items_of_rename {source target : Location}
    (renamed : rename source target tree = .ok changed) :
    ∃ content, tree.item? source = some (.file content) ∧
      (Function.update tree.item? source none) target ≠ some .directory ∧
      ((Function.update tree.item? source none) target = none → fits target) ∧
      changed.item? = Function.update (Function.update tree.item? source none) target
        (some (.file content)) := by
  rw [rename] at renamed
  rcases found : tree.find source with failure | moved
  · simp [found, Bind.bind, Except.bind] at renamed
  · rcases removed : tree.removeFile source with failure | without
    · simp [found, removed, Bind.bind, Except.bind] at renamed
    · simp only [found, removed, Bind.bind, Except.bind] at renamed
      rcases items_of_removeFile removed with ⟨-, notDirectory, items⟩
      have here : tree.item? source = some moved.item := by
        simp [item?, standing?, found, Except.toOption]
      rcases moved with ⟨content, holder⟩ | entries
      · refine ⟨content, here, ?_⟩
        rw [← items]
        have room : without.item? target = none → fits target := by
          intro absent
          rcases accepts_none renamed absent with ⟨child, accepted⟩
          by_contra tooLong
          simp [tooLong] at accepted
        have placed : without.item? target ≠ some .directory ∧
            changed.item? = Function.update without.item? target (some (.file content)) := by
          refine items_of_alter (fun _ => some content) ⟨by simp, ?_⟩ renamed
          rintro (_ | ⟨bytes, other⟩ | entries) child accepted
          · simp only at accepted
            split at accepted
            · injection accepted with made
              subst made
              rfl
            · contradiction
          · injection accepted with made
            subst made
            rfl
          · contradiction
        exact ⟨placed.1, room, placed.2⟩
      · exact absurd here notDirectory

theorem alterFile_succeeds {write : ByteArray → Option Holder → FileTree}
    (around : tree.item? front = some .directory)
    (notDirectory : tree.item? (front ++ [name]) ≠ some .directory)
    (room : tree.item? (front ++ [name]) = none → fits (front ++ [name])) :
    ∃ changed, alterFile write (front ++ [name]) tree = .ok changed := by
  rw [item?] at notDirectory room
  rcases found : tree.standing? (front ++ [name]) with _ | (⟨content, holder⟩ | entries)
  · have fitting := room (by simp [found])
    exact alter_succeeds (some (write .empty none)) around (by simp [found, fitting])
  · exact alter_succeeds (some (write content holder)) around (by simp [found])
  · simp [found, item] at notDirectory

theorem append_succeeds {added content : ByteArray}
    (present : tree.item? (front ++ [name]) = some (.file content)) :
    ∃ changed, append added (front ++ [name]) tree = .ok changed := by
  have around := isDirectory_above (List.cons_ne_nil name []) (by rw [present]; simp)
  rw [item?] at present
  rcases found : tree.standing? (front ++ [name]) with _ | (⟨bytes, holder⟩ | entries)
  · simp [found] at present
  · exact alter_succeeds (some (.file (bytes ++ added) holder)) around (by simp [found])
  · simp [found, item] at present

theorem removeFile_succeeds {content : ByteArray}
    (present : tree.item? (front ++ [name]) = some (.file content)) :
    ∃ changed, removeFile (front ++ [name]) tree = .ok changed := by
  have around := isDirectory_above (List.cons_ne_nil name []) (by rw [present]; simp)
  rw [item?] at present
  rcases found : tree.standing? (front ++ [name]) with _ | (⟨bytes, holder⟩ | entries)
  · simp [found] at present
  · exact alter_succeeds none around (by simp [found])
  · simp [found, item] at present

theorem rename_succeeds {source : String} {content : ByteArray} (apart : name ≠ source)
    (present : tree.item? (front ++ [source]) = some (.file content))
    (notDirectory : tree.item? (front ++ [name]) ≠ some .directory)
    (room : tree.item? (front ++ [name]) = none → fits (front ++ [name])) :
    ∃ changed, rename (front ++ [source]) (front ++ [name]) tree = .ok changed := by
  have around := isDirectory_above (List.cons_ne_nil source []) (by rw [present]; simp)
  rcases removeFile_succeeds present with ⟨without, removed⟩
  rcases items_of_removeFile removed with ⟨-, -, items⟩
  have elsewhere : front ++ [name] ≠ front ++ [source] := by simpa using apart
  have aside : front ≠ front ++ [source] := by simp
  have there : without.item? (front ++ [name]) = tree.item? (front ++ [name]) := by
    rw [items, Function.update_of_ne elsewhere]
  have still : without.item? front = some .directory := by
    rw [items, Function.update_of_ne aside, around]
  rcases found : tree.find (front ++ [source]) with failure | moved
  · simp [item?, standing?, found, Except.toOption] at present
  · rw [← there, item?] at notDirectory room
    simp only [rename, found, removed, Bind.bind, Except.bind]
    rcases target : without.standing? (front ++ [name]) with _ | (⟨bytes, holder⟩ | entries)
    · have fitting := room (by simp [target])
      exact alter_succeeds (some moved) still (by simp [target, fitting])
    · exact alter_succeeds (some moved) still (by simp [target])
    · simp [target, item] at notDirectory

theorem fileAt?_of_removeFile (removed : removeFile place tree = .ok changed) :
    changed.fileAt? = Function.update tree.fileAt? place none := by
  have items : changed.item? =
      Function.update tree.item? place ((none : Option ByteArray).map .file) :=
    (items_of_removeFile removed).2.2
  exact fileAt?_of_items items

theorem fileAt?_of_move {source target : Location} {content : ByteArray}
    (items : changed.item? = Function.update (Function.update tree.item? source none) target
      (some (.file content))) :
    changed.fileAt? =
      Function.update (Function.update tree.fileAt? source none) target (some content) := by
  rw [fileAt?_eq_comp, items, Function.comp_update, Function.comp_update, ← fileAt?_eq_comp]
  rfl

end Edits

section Directories

theorem item?_chain (place other : Location) :
    (chain place).item? other = if other <+: place then some .directory else none := by
  induction place generalizing other with
  | nil => cases other <;> simp [chain, item]
  | cons name place ih =>
      cases other with
      | nil => simp [chain, item]
      | cons first other =>
          by_cases same : first = name
          · subst same
            simp [chain, ih]
          · have skipped : (first == name) = false := by simpa using same
            simp [chain, List.lookup_cons, skipped, same]

theorem items_of_createDirectories (made : createDirectories place tree = .ok changed)
    (other : Location) :
    changed.item? other = if other <+: place then some .directory else tree.item? other := by
  induction place generalizing tree changed other with
  | nil =>
      cases tree with
      | file content holder => simp [createDirectories] at made
      | directory entries =>
          simp only [createDirectories, Except.ok.injEq] at made
          subst made
          cases other <;> simp [item]
  | cons name place ih =>
      cases tree with
      | file content holder => simp [createDirectories] at made
      | directory entries =>
          cases found : entries.lookup name with
          | none =>
              simp only [createDirectories, found] at made
              split at made
              · injection made with same
                subst same
                rw [item?_rebind]
                cases other with
                | nil => simp [item]
                | cons first other =>
                    by_cases same : name = first
                    · subst same
                      simp [item?_chain, found]
                    · simp [same, Ne.symm same]
              · contradiction
          | some below =>
              cases deeper : createDirectories place below with
              | error failure => simp [createDirectories, found, deeper, Except.map] at made
              | ok child =>
                  simp only [createDirectories, found, deeper, Except.map, Except.ok.injEq] at made
                  subst made
                  rw [item?_rebind]
                  cases other with
                  | nil => simp [item]
                  | cons first other =>
                      by_cases same : name = first
                      · subst same
                        simp [ih deeper, found]
                      · simp [same, Ne.symm same]

/-- No directory is made at or below a file. -/
theorem item?_ne_file_of_createDirectories {other : Location} {content : ByteArray}
    (made : createDirectories place tree = .ok changed) (above : other <+: place) :
    tree.item? other ≠ some (.file content) := by
  induction other generalizing tree changed place with
  | nil =>
      cases tree with
      | file bytes holder => cases place <;> simp [createDirectories] at made
      | directory entries => simp [item]
  | cons name other ih =>
      rcases above with ⟨rest, rfl⟩
      cases tree with
      | file bytes holder => simp
      | directory entries =>
          rw [List.cons_append, createDirectories] at made
          cases found : entries.lookup name with
          | none => simp [found]
          | some below =>
              cases deeper : createDirectories (other ++ rest) below with
              | error failure => simp [found, deeper, Except.map] at made
              | ok child => simpa [found] using ih deeper (List.prefix_append other rest)

theorem fileAt?_of_createDirectories (made : createDirectories place tree = .ok changed) :
    changed.fileAt? = tree.fileAt? := by
  funext other
  rw [fileAt?, fileAt?, items_of_createDirectories made other]
  split
  · next above =>
      rcases found : tree.item? other with _ | content | _
      · rfl
      · exact absurd found (item?_ne_file_of_createDirectories made above)
      · rfl
  · rfl

/-- Where a directory stands nothing needs to be made. -/
theorem createDirectories_succeeds (present : tree.item? place = some .directory) :
    ∃ changed, createDirectories place tree = .ok changed ∧ changed.item? = tree.item? := by
  have made : ∃ changed, createDirectories place tree = .ok changed := by
    induction place generalizing tree with
    | nil =>
        cases tree with
        | file content holder => simp [item] at present
        | directory entries => exact ⟨.directory entries, rfl⟩
    | cons name place ih =>
        cases tree with
        | file content holder => simp at present
        | directory entries =>
            cases found : entries.lookup name with
            | none => simp [found] at present
            | some below =>
                rcases ih (by simpa [found] using present) with ⟨child, deeper⟩
                exact ⟨.directory (rebind name (some child) entries),
                  by simp [createDirectories, found, deeper, Except.map]⟩
  rcases made with ⟨changed, made⟩
  refine ⟨changed, made, ?_⟩
  funext other
  rw [items_of_createDirectories made other]
  split
  · next above =>
      rcases above with ⟨rest, rfl⟩
      by_cases here : rest = []
      · subst here
        rw [List.append_nil] at present
        exact present.symm
      · exact (isDirectory_above here (by rw [present]; simp)).symm
  · rfl

end Directories

section Locks

variable {holder : Holder}

theorem fileAt?_of_openFile (opened : openFile place tree = .ok changed) {other : Location}
    (elsewhere : other ≠ place) : changed.fileAt? other = tree.fileAt? other := by
  rw [fileAt?, (items_of_openFile opened).2, Function.update_of_ne elsewhere, fileAt?]

theorem fileAt?_of_hold? (held : tree.hold? holder place = some changed) {other : Location}
    (elsewhere : other ≠ place) : changed.fileAt? other = tree.fileAt? other := by
  unfold hold? at held
  split at held
  · rcases outcome : alterFile (fun content _ => .file content (some holder)) place tree with
      _ | edited
    · simp [outcome, Except.toOption] at held
    · have same : edited = changed := by simpa [outcome, Except.toOption] using held
      subst same
      have items := (items_of_alterFile id (fun _ _ => rfl) outcome).2
      rw [fileAt?, items, Function.update_of_ne elsewhere, fileAt?]
  · contradiction

theorem fileAt?_release (holder : Holder) (place : Location) (tree : FileTree) {other : Location}
    (elsewhere : other ≠ place) :
    (tree.release holder place).fileAt? other = tree.fileAt? other := by
  unfold release
  split
  · split
    · rcases outcome : alterFile (fun content _ => .file content none) place tree with _ | changed
      · rfl
      · have items := (items_of_alterFile id (fun _ _ => rfl) outcome).2
        simp only [Except.toOption, Option.getD_some]
        rw [fileAt?, items, Function.update_of_ne elsewhere, fileAt?]
    · rfl
  · rfl

end Locks

end FileTree

end MemoryKeeper

import MemoryKeeper.Proofs.Listings

/-!
# Listings and the order of enumeration

A file system may name the entries of a directory in any order. Trees that differ
in such orders only have the same items at the same places, so they have the same
listing: the memory files of the categories asked for, category after category,
and in each category by the bytes of their slugs.
-/

namespace MemoryKeeper

open MemoryKeeper.Path (Location)

namespace FileTree

/-- Trees that differ in the order in which entries of directories are named. Names are distinct
where entries change places, because of several entries with one name the first counts. -/
inductive Reordered : FileTree → FileTree → Prop where
  | refl (tree : FileTree) : Reordered tree tree
  | trans {first second third : FileTree} (near : Reordered first second)
      (far : Reordered second third) : Reordered first third
  | permuted {entries others : List (String × FileTree)}
      (distinct : (entries.map Prod.fst).Nodup) (permutation : entries.Perm others) :
      Reordered (.directory entries) (.directory others)
  | inside {child other : FileTree} (before : List (String × FileTree)) (name : String)
      (after : List (String × FileTree)) (reordered : Reordered child other) :
      Reordered (.directory (before ++ (name, child) :: after))
        (.directory (before ++ (name, other) :: after))

theorem lookup_of_perm {entries others : List (String × FileTree)}
    (permutation : entries.Perm others) (distinct : (entries.map Prod.fst).Nodup)
    (name : String) : entries.lookup name = others.lookup name := by
  induction permutation with
  | nil => rfl
  | cons entry permutation ih =>
      rcases entry with ⟨key, child⟩
      simp only [List.map_cons, List.nodup_cons] at distinct
      simp only [List.lookup_cons, ih distinct.2]
  | swap first second rest =>
      rcases first with ⟨first, child⟩
      rcases second with ⟨second, other⟩
      simp only [List.map_cons, List.nodup_cons, List.mem_cons, not_or] at distinct
      by_cases isSecond : name = second
      · subst isSecond
        have skipped : (name == first) = false := by simpa using distinct.1.1
        simp only [List.lookup_cons, beq_self_eq_true, skipped]
      · have skipped : (name == second) = false := by simpa using isSecond
        simp only [List.lookup_cons, skipped]
  | trans near far ihNear ihFar =>
      have distinctToo := (near.map Prod.fst).nodup_iff.mp distinct
      exact (ihNear distinct).trans (ihFar distinctToo)

/-- The order of entries has no part in what stands where. -/
theorem Reordered.items {left right : FileTree} (reordered : left.Reordered right) :
    left.item? = right.item? := by
  induction reordered with
  | refl tree => rfl
  | trans near far ihNear ihFar => exact ihNear.trans ihFar
  | permuted distinct permutation =>
      funext place
      cases place with
      | nil => rfl
      | cons name rest => simp only [item?_directory, lookup_of_perm permutation distinct]
  | inside before name after reordered ih =>
      funext place
      cases place with
      | nil => rfl
      | cons first rest =>
          simp only [item?_directory, List.lookup_append]
          cases before.lookup first with
          | some child => rfl
          | none =>
              by_cases here : first = name
              · simp [here, ih]
              · have skipped : (first == name) = false := by simpa using here
                simp [List.lookup_cons, skipped]

end FileTree

namespace Text

theorem utf8EncodeChar_of_lt {character : Char} (short : character.toNat < 128) :
    String.utf8EncodeChar character = [character.val.toUInt8] := by
  apply String.utf8EncodeChar_eq_singleton
  rw [Char.utf8Size_eq_one_iff, UInt32.le_iff_toNat_le]
  exact Nat.le_of_lt_succ short

theorem flatMap_utf8EncodeChar_lt {left right : List Char}
    (leftShort : ∀ character ∈ left, character.toNat < 128)
    (rightShort : ∀ character ∈ right, character.toNat < 128) (less : left < right) :
    left.flatMap String.utf8EncodeChar < right.flatMap String.utf8EncodeChar := by
  induction left generalizing right with
  | nil =>
      cases right with
      | nil => exact absurd less (List.lt_irrefl [])
      | cons second right =>
          rw [List.flatMap_cons, utf8EncodeChar_of_lt (rightShort second (by simp))]
          exact List.nil_lt_cons _ _
  | cons first left ih =>
      cases right with
      | nil => exact absurd less (List.not_lt_nil _)
      | cons second right =>
          rw [List.forall_mem_cons] at leftShort rightShort
          rw [List.flatMap_cons, List.flatMap_cons, utf8EncodeChar_of_lt leftShort.1,
            utf8EncodeChar_of_lt rightShort.1, List.singleton_append, List.singleton_append,
            List.cons_lt_cons_iff]
          rcases List.cons_lt_cons_iff.mp less with smaller | ⟨same, later⟩
          · left
            have below : first.toNat < second.toNat := UInt32.lt_iff_toNat_lt.mp smaller
            have firstByte := Nat.mod_eq_of_lt (leftShort.1.trans (by decide : 128 < 2 ^ 8))
            have secondByte := Nat.mod_eq_of_lt (rightShort.1.trans (by decide : 128 < 2 ^ 8))
            rw [UInt8.lt_iff_toNat_lt, UInt32.toNat_toUInt8, UInt32.toNat_toUInt8]
            change first.toNat % 2 ^ 8 < second.toNat % 2 ^ 8
            rwa [firstByte, secondByte]
          · right
            exact ⟨by rw [same], ih leftShort.2 rightShort.2 later⟩

/-- Texts of single-byte characters are ordered as their bytes are. -/
theorem encode_lt_encode {left right : String}
    (leftShort : ∀ character ∈ left.toList, character.toNat < 128)
    (rightShort : ∀ character ∈ right.toList, character.toNat < 128) (less : left < right) :
    (encode left).data.toList < (encode right).data.toList := by
  have bytes : ∀ text : String,
      (encode text).data.toList = text.toList.flatMap String.utf8EncodeChar := by
    intro text
    rw [encode, ← String.ofList_toList (s := text), String.toByteArray_ofList, List.utf8Encode]
    simp
  rw [bytes, bytes]
  exact flatMap_utf8EncodeChar_lt leftShort rightShort (String.lt_iff_toList_lt.mp less)

end Text

namespace Storage

variable {storage : Storage} {tree : FileTree}

theorem toNat_lt_of_mem_text {slug : Slug} {character : Char}
    (present : character ∈ slug.text.toList) : character.toNat < 128 := by
  have allowed := Slug.isSlugChar_of_mem present
  simp only [isSlugChar, Char.isDigit, Bool.or_eq_true, Bool.and_eq_true, decide_eq_true_eq]
    at allowed
  rcases allowed with (⟨-, high⟩ | ⟨-, high⟩) | hyphen
  · have bounded : character.toNat ≤ 122 := high
    omega
  · have bounded : character.toNat ≤ 57 := high
    omega
  · simp [hyphen]

/-- Slugs of one category are listed in the order of their bytes, none twice. -/
theorem pairwise_listOf_lt (storage : Storage) (tree : FileTree) (symbol : Symbol) :
    (storage.listOf tree symbol).Pairwise fun earlier later =>
      (Text.encode earlier.slug.text).data.toList < (Text.encode later.slug.text).data.toList := by
  have ordered := (storage.pairwise_listOf tree symbol).and (storage.nodup_listOf tree symbol)
  refine ordered.imp_of_mem ?_
  rintro earlier later isEarlier isLater ⟨ascending, differ⟩
  apply Text.encode_lt_encode
  · intro character present
    exact toNat_lt_of_mem_text present
  · intro character present
    exact toNat_lt_of_mem_text present
  · apply lt_of_le_of_ne ascending
    intro sameText
    apply differ
    have sameSymbol := (mem_listOf.mp isEarlier).2.trans (mem_listOf.mp isLater).2.symm
    cases earlier
    cases later
    simp only at sameSymbol sameText
    rw [sameSymbol, Slug.ext sameText]

theorem list_of_reordered {other : FileTree} (reordered : tree.Reordered other)
    (asked : Option Symbol) : storage.list other asked = storage.list tree asked := by
  apply list_congr
  apply holds_congr
  intro entry
  simp only [FileTree.fileAt?, reordered.items]

/-- A listing shows each memory file of the categories asked for once, in the order of the
categories and then of the bytes of their slugs, whatever order the file system names them in. -/
theorem list_shows_memory_files_in_order (storage : Storage) (tree : FileTree) :
    (∀ asked : Option Symbol, (storage.list tree asked).Nodup ∧
      ∀ entry, entry ∈ storage.list tree asked ↔
        (asked = none ∨ asked = some entry.symbol) ∧
        tree.isFile (Path.location storage.workDirectory ++
          ["memories", entry.symbol.kind, entry.slug.text ++ ".md"])) ∧
    storage.list tree none =
      [Symbol.insight, .pattern, .goal, .exploration].flatMap
        (fun symbol => storage.list tree (some symbol)) ∧
    (∀ symbol, (storage.list tree (some symbol)).Pairwise fun earlier later =>
      (Text.encode earlier.slug.text).data.toList < (Text.encode later.slug.text).data.toList) ∧
    ∀ other asked, tree.Reordered other → storage.list other asked = storage.list tree asked := by
  refine ⟨?_, rfl, storage.pairwise_listOf_lt tree, ?_⟩
  · intro asked
    refine ⟨storage.nodup_list tree asked, ?_⟩
    intro entry
    have place : storage.place entry = Path.location storage.workDirectory ++
        ["memories", entry.symbol.kind, entry.slug.text ++ ".md"] := by
      rw [place_eq, List.append_assoc]
      rfl
    rw [mem_list, ← place, and_comm]
    apply and_congr_left
    intro _
    cases asked with
    | none => simp
    | some symbol => simp [eq_comm]
  · intro other asked reordered
    exact list_of_reordered reordered asked

/-- Two categories, and a directory and a file that are no memories, named in another order. -/
theorem list_shows_memory_files_in_order_of_exchanged :
    let storage : Storage := ⟨"/r/.git", "/r"⟩
    let file : FileTree := .file .empty none
    let goals : List (String × FileTree) :=
      [("zeta.md", file), ("Bad Name.md", file), ("dir.md", .directory []), ("alpha.md", file)]
    let tree (goals : List (String × FileTree)) : FileTree := .directory [("r", .directory
      [("memories", .directory [("goal", .directory goals), ("insight", .directory
        [("idea.md", file)])])])]
    (tree goals).Reordered (tree goals.reverse) ∧
      storage.list (tree goals.reverse) none = storage.list (tree goals) none ∧
      (⟨.goal, ⟨"alpha", by decide⟩⟩ : MemoryEntry) ∈ storage.list (tree goals) none ∧
      (⟨.goal, ⟨"dir", by decide⟩⟩ : MemoryEntry) ∉ storage.list (tree goals) none := by
  intro storage file goals tree
  have distinct : (goals.map Prod.fst).Nodup := by decide
  have exchanged : (FileTree.directory goals).Reordered (.directory goals.reverse) :=
    .permuted distinct goals.reverse_perm.symm
  have reordered : (tree goals).Reordered (tree goals.reverse) :=
    .inside [] "r" [] (.inside [] "memories" [] (.inside [] "goal" _ exchanged))
  have shown := storage.list_shows_memory_files_in_order (tree goals)
  refine ⟨reordered, shown.2.2.2 _ none reordered, ?_, ?_⟩
  · exact ((shown.1 none).2 _).mpr ⟨.inl rfl, by decide⟩
  · intro isListed
    exact absurd (((shown.1 none).2 _).mp isListed).2 (by decide)

end Storage

end MemoryKeeper

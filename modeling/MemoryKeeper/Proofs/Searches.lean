import MemoryKeeper.Proofs.Documents
import MemoryKeeper.Proofs.Lines
import MemoryKeeper.Proofs.Numerals
import MemoryKeeper.Proofs.Observers

/-!
# What searches show

Git prints a hit as a line with two colons of its own. The first colon of the
line ends the path that is shown, so every hit is shown with its own path, line
number and text exactly if no path holds a colon, which git does not quote, and
no text ends in a carriage return, which is taken for a part of the line's
ending. Where only the second fails, each hit loses no more than one carriage
return.
-/

namespace MemoryKeeper

namespace Text

theorem dropCarriageReturn_append (front : List Char) {line : List Char} (nonempty : line ≠ []) :
    dropCarriageReturn (front ++ line) = front ++ dropCarriageReturn line := by
  induction front with
  | nil => rfl
  | cons character front ih =>
      have behind : front ++ line ≠ [] := List.append_ne_nil_of_right_ne_nil front nonempty
      rw [List.cons_append, dropCarriageReturn_cons behind, ih, List.cons_append]

end Text

theorem notMem_toDigits {character : Char} (other : character.isDigit = false) (value : ℕ) :
    character ∉ Nat.toDigits 10 value := by
  intro present
  rw [Nat.isDigit_toDigits value character present] at other
  cases other

namespace Git

/-- A line number is read back from its digits if it has at most 64 bits. -/
theorem lineNumber?_toDigits {line : ℕ} (small : line < 2 ^ 64) :
    lineNumber? (Nat.toDigits 10 line) = some line := by
  have nonempty : Nat.toDigits 10 line ≠ [] := Nat.toDigits_ne_nil
  have allDigits : (Nat.toDigits 10 line).all Char.isDigit :=
    List.all_eq_true.mpr (Nat.isDigit_toDigits line)
  have value : Decimal.valueOfDigits (Nat.toDigits 10 line) = line := by
    rw [Decimal.valueOfDigits_eq_ofDigitChars, Nat.ofDigitChars_ten_toDigits]
  rw [lineNumber?]
  · simp only [List.isEmpty_eq_false_iff.mpr nonempty, allDigits, value]
    exact if_pos small
  · intro rest signed
    apply notMem_toDigits (by decide : '+'.isDigit = false) line
    rw [signed]
    exact List.mem_cons_self

namespace SearchHit

variable {hit : SearchHit} {hits : List SearchHit}

/-- The characters of a hit's line. -/
def lineChars (hit : SearchHit) : List Char :=
  hit.path.toList ++ ':' :: (Nat.toDigits 10 hit.line ++ ':' :: hit.text.toList)

/-- A hit as git prints it. -/
def printed (hit : SearchHit) : List Char :=
  hit.lineChars ++ ['\n']

/-- Whether a hit is a line of a file, in a file that git can name on a line. -/
structure IsLine (hit : SearchHit) : Prop where
  path : '\n' ∉ hit.path.toList
  text : '\n' ∉ hit.text.toList
  line : hit.line < 2 ^ 64

/-- A hit less a carriage return at the end of its text. -/
def trimmed (hit : SearchHit) : SearchHit :=
  { hit with text := String.ofList (Text.dropCarriageReturn hit.text.toList) }

theorem trimmed_eq_self_iff : hit.trimmed = hit ↔ hit.text.toList.getLast? ≠ some '\r' := by
  rw [← Text.dropCarriageReturn_eq_self_iff, trimmed]
  cases hit with
  | mk path line text => simp [← String.toList_inj]

theorem map_trimmed_eq_self_iff :
    hits.map trimmed = hits ↔ ∀ hit ∈ hits, hit.text.toList.getLast? ≠ some '\r' := by
  have alike : hits.map trimmed = hits.map id ↔ ∀ hit ∈ hits, hit.trimmed = id hit :=
    List.map_inj_left
  simpa only [List.map_id, id_eq, trimmed_eq_self_iff] using alike

theorem lineFeed_notMem_lineChars (isLine : hit.IsLine) : '\n' ∉ hit.lineChars := by
  have numeral : '\n' ∉ Nat.toDigits 10 hit.line := notMem_toDigits (by decide) hit.line
  simp [lineChars, isLine.path, isLine.text, numeral]

theorem dropCarriageReturn_lineChars (hit : SearchHit) :
    Text.dropCarriageReturn hit.lineChars = hit.trimmed.lineChars := by
  have colon (text : List Char) :
      Text.dropCarriageReturn (':' :: text) = ':' :: Text.dropCarriageReturn text := by
    by_cases empty : text = []
    · rw [empty]
      rfl
    · exact Text.dropCarriageReturn_cons empty
  rw [lineChars, lineChars, Text.dropCarriageReturn_append _ (List.cons_ne_nil _ _), colon,
    Text.dropCarriageReturn_append _ (List.cons_ne_nil _ _), colon, trimmed, String.toList_ofList]

/-- The line of a hit is read as the hit if its path holds no colon. -/
theorem ofLine?_lineChars (whole : ':' ∉ hit.path.toList) (small : hit.line < 2 ^ 64) :
    ofLine? hit.lineChars = some hit := by
  have numeral : ':' ∉ Nat.toDigits 10 hit.line := notMem_toDigits (by decide) hit.line
  simp [ofLine?, lineChars, Text.cut_append whole, Text.cut_append numeral,
    lineNumber?_toDigits small]

/-- No line is read as a hit in a path with a colon. -/
theorem colon_notMem_of_ofLine? {line : List Char} (read : ofLine? line = some hit) :
    ':' ∉ hit.path.toList := by
  simp only [ofLine?, Option.bind_eq_bind, Option.bind_eq_some_iff, Option.pure_def,
    Option.some.injEq] at read
  rcases read with ⟨afterPath, -, number, -, text, -, rfl⟩
  rw [String.toList_ofList]
  exact Text.separator_notMem_cut ':' line

end SearchHit

section Output

variable {hits : List SearchHit} (areLines : ∀ hit ∈ hits, hit.IsLine)

include areLines

/-- Of printed hits each is shown as its line is read, less a carriage return. -/
theorem searchHits_printed :
    searchHits (String.ofList (hits.flatMap SearchHit.printed)) =
      hits.filterMap fun hit => SearchHit.ofLine? hit.trimmed.lineChars := by
  have lines : Text.lines (String.ofList (hits.flatMap SearchHit.printed)) =
      hits.map fun hit => hit.trimmed.lineChars := by
    rw [Text.lines, String.toList_ofList]
    refine (Text.linesFrom_flatMap ?_).trans ?_
    · intro hit isHit
      exact SearchHit.lineFeed_notMem_lineChars (areLines hit isHit)
    · simp only [SearchHit.dropCarriageReturn_lineChars]
  rw [searchHits, lines, List.filterMap_map]
  rfl

theorem searchHits_printed_of_whole (whole : ∀ hit ∈ hits, ':' ∉ hit.path.toList) :
    searchHits (String.ofList (hits.flatMap SearchHit.printed)) = hits.map SearchHit.trimmed := by
  rw [searchHits_printed areLines, ← List.filterMap_eq_map]
  apply List.filterMap_congr
  intro hit isHit
  exact SearchHit.ofLine?_lineChars (whole hit isHit) (areLines hit isHit).line

theorem searchHits_printed_eq_self_iff :
    searchHits (String.ofList (hits.flatMap SearchHit.printed)) = hits ↔
      ∀ hit ∈ hits, ':' ∉ hit.path.toList ∧ hit.text.toList.getLast? ≠ some '\r' := by
  constructor
  · intro same
    have whole : ∀ hit ∈ hits, ':' ∉ hit.path.toList := by
      intro hit isHit
      rw [← same, searchHits_printed areLines, List.mem_filterMap] at isHit
      rcases isHit with ⟨_, -, read⟩
      exact SearchHit.colon_notMem_of_ofLine? read
    rw [searchHits_printed_of_whole areLines whole, SearchHit.map_trimmed_eq_self_iff] at same
    exact fun hit isHit => ⟨whole hit isHit, same hit isHit⟩
  · intro plain
    rw [searchHits_printed_of_whole areLines fun hit isHit => (plain hit isHit).1,
      SearchHit.map_trimmed_eq_self_iff]
    exact fun hit isHit => (plain hit isHit).2

end Output

end Git

namespace Session

variable {session : Session} {holder : Holder} {world : World} {query : String} {depth : Depth}
  {hits : List Git.SearchHit}

/-- The process that looks for a text in memories. -/
def searching (session : Session) (query : String) : Git.Invocation :=
  session.invocation ["grep", "-n", "-i", "-F", "-e", query, "--", scope]

/-- The log of the commits that touched a text. -/
def touching (session : Session) (query : String) (depth : Depth) :
    Task ExecutionError (List Git.CommitSummary) :=
  session.log depth ["-i", "-G" ++ String.ofList (Git.escapePattern query.toList)] scope

section Answered

variable {reply : Reply} (startable : world.startFailure? (session.searching query) = none)
  (answered : world.git world.exchanges (session.searching query) world.files = reply)
  (succeeded : reply.code = some 0)

include startable answered succeeded

/-- A search shows what git found once the log is printed too. -/
theorem perform_search {output : String} (printed : reply.output = Text.encode output) :
    (session.search query depth).perform holder world =
      let logged := (session.touching query depth).perform holder
        (world.exchanged (session.searching query))
      (logged.1.map (.search query depth (Git.searchHits output)), logged.2) := by
  have found : (session.git ["grep", "-n", "-i", "-F", "-e", query, "--", scope] [0, 1]).perform
      holder world = (.ok reply.completion, world.exchanged (session.searching query)) :=
    perform_git_of_accepted startable answered succeeded (by decide)
  rw [search, Task.perform_bind_of_ok found, Reply.completion, printed, Text.decodeLenient,
    Text.decode?_encode, Option.getD_some, Task.perform_bind, ← touching]
  rcases (session.touching query depth).perform holder (world.exchanged (session.searching query))
    with ⟨failure | commits, after⟩
  · rfl
  · simp only [Task.perform_pure]
    rfl

/-- A search whose `git grep` prints some hits shows each with its own path, line number and text
if and only if no path holds a colon and no text ends in a carriage return. Without colons in paths
nothing but such a carriage return is lost. -/
theorem search_shows_hits_iff (holder : Holder) (depth : Depth)
    (printed : reply.output = Text.encode (String.ofList (hits.flatMap Git.SearchHit.printed)))
    (areLines : ∀ hit ∈ hits, hit.IsLine) :
    ∃ shown,
      (session.search query depth).perform holder world =
        (let logged := (session.touching query depth).perform holder
          (world.exchanged (session.searching query))
        (logged.1.map (.search query depth shown), logged.2)) ∧
      ((∀ hit ∈ hits, ':' ∉ hit.path.toList) → shown = hits.map Git.SearchHit.trimmed) ∧
      (shown = hits ↔
        ∀ hit ∈ hits, ':' ∉ hit.path.toList ∧ hit.text.toList.getLast? ≠ some '\r') :=
  ⟨_, perform_search startable answered succeeded printed,
    Git.searchHits_printed_of_whole areLines, Git.searchHits_printed_eq_self_iff areLines⟩

end Answered

/-- The path of a file whose name holds two colons is cut short, and its line number is taken from
the name. -/
theorem search_shows_other_hit_of_colon :
    let hit : Git.SearchHit := ⟨"memories/insight/a:7:b.md", 3, "x"⟩
    let shown : Git.SearchHit := ⟨"memories/insight/a", 7, "b.md:3:x"⟩
    let script : Nat → Git.Completion := fun line =>
      ⟨some 0, if line = 0 then String.ofList hit.printed else "", ""⟩
    ∃ after,
      (plain.search "x" .standard).perform 0 (World.plain [] (Git.scripted script)) =
        (.ok (.search "x" .standard [shown] []), after) ∧
      [shown] ≠ [hit] := by
  intro hit shown script
  have areLines : ∀ found ∈ [hit], found.IsLine := by
    rw [List.forall_mem_singleton]
    exact ⟨by decide, by decide, by decide⟩
  have startable : (World.plain [] (Git.scripted script)).startFailure? (plain.searching "x") =
      none := by
    decide +kernel
  have printed : Text.encode (String.ofList hit.printed) =
      Text.encode (String.ofList ([hit].flatMap Git.SearchHit.printed)) := by
    rw [List.flatMap_singleton]
  have outcome : ((plain.search "x" .standard).perform 0
      (World.plain [] (Git.scripted script))).1 = .ok (.search "x" .standard [shown] []) := by
    decide +kernel
  rcases search_shows_hits_iff startable rfl rfl 0 .standard printed areLines with
    ⟨result, performed, -, exactly⟩
  have differs : result ≠ [hit] := by
    intro same
    exact absurd ((exactly.mp same) hit List.mem_cons_self).1 (by decide)
  generalize (plain.touching "x" .standard).perform 0 _ = logged at performed
  rcases logged with ⟨failure | commits, after⟩
  · rw [performed] at outcome
    cases outcome
  · rw [performed] at outcome
    cases outcome
    exact ⟨after, performed, differs⟩

end Session

end MemoryKeeper

import MemoryKeeper.CommandLine.Arguments
import MemoryKeeper.Proofs.Expressions
import MemoryKeeper.Proofs.Lines
import MemoryKeeper.Proofs.Tokens
import Mathlib.Data.List.Nodup

/-!
# Flags and words

The arguments are flags, each with its value, and then the words of an expression.
How a flag is written and what it asks for is said once, by `IsWritten` and
`Flag`. A usable flag of a new kind takes the reader from a state to the next one
(`exists_step`), and a reader that accepts its arguments stands before such a flag
or before the expression (`begins_or_flag`). So the arguments that are read are just
those that open with usable flags of different kinds, and what is asked for is what
these flags say and the words behind them.
-/

namespace MemoryKeeper.CommandLine

open MemoryKeeper.Text

section Names

variable {name word : String}

theorem cut_valued (plain : '=' ∉ name.toList) (value : String) :
    cut '=' (name ++ "=" ++ value).toList = (name.toList, some value.toList) := by
  have shape : (name ++ "=" ++ value).toList = name.toList ++ '=' :: value.toList := by simp
  rw [shape, cut_append plain]

/-- A word is a plain name, or one with a value behind an equals sign. -/
theorem name_cases (word : String) :
    '=' ∉ word.toList ∨ ∃ name value, '=' ∉ name.toList ∧ word = name ++ "=" ++ value := by
  rcases separated_cases '=' word.toList with absent | ⟨before, after, absent, shape⟩
  · exact .inl absent
  · refine .inr ⟨String.ofList before, String.ofList after, by simpa using absent, ?_⟩
    apply String.toList_injective
    simpa using shape

/-- A word that is a declared flag, alone or with a value behind an equals sign. -/
def NamesFlag (word : String) : Prop :=
  ∃ flag ∈ declaredFlags, word = flag ∨ ∃ value, word = flag ++ "=" ++ value

theorem declaredFlags_plain : ∀ flag ∈ declaredFlags, '=' ∉ flag.toList := by
  decide

theorem isDeclaredFlag_iff : isDeclaredFlag word ↔ NamesFlag word := by
  rw [isDeclaredFlag, List.contains_iff_mem, NamesFlag]
  constructor
  · rcases name_cases word with plain | ⟨name, value, plain, rfl⟩
    · rw [cut_of_notMem plain, String.ofList_toList]
      exact fun declared => ⟨word, declared, .inl rfl⟩
    · rw [cut_valued plain, String.ofList_toList]
      exact fun declared => ⟨name, declared, .inr ⟨value, rfl⟩⟩
  · rintro ⟨flag, declared, rfl | ⟨value, rfl⟩⟩
    · rwa [cut_of_notMem (declaredFlags_plain _ declared), String.ofList_toList]
    · rwa [cut_valued (declaredFlags_plain _ declared), String.ofList_toList]

instance (word : String) : Decidable (NamesFlag word) :=
  decidable_of_iff _ isDeclaredFlag_iff

end Names

section Writing

variable {word : String} {reading : Reading}

/-- How flags are written: two hyphens before a long name, with a value behind an equals sign or
without one, or one hyphen before the letters of some switches. -/
inductive IsWritten : Reading → String → Prop where
  | directory : IsWritten .directory ("--" ++ directoryName)
  | directoryWithValue (value : String) :
      IsWritten (.directoryWithValue value) ("--" ++ (directoryName ++ "=" ++ value))
  | switch (switch : Switch) : IsWritten (.switches [switch]) ("--" ++ switch.name)
  | switchWithValue (switch : Switch) (value : String) :
      IsWritten .switchWithValue ("--" ++ (switch.name ++ "=" ++ value))
  | letters {letter : Char} {letters : List Char} {switches : List Switch}
      (known : (letter :: letters).mapM Switch.ofLetter? = some switches) :
      IsWritten (.switches switches) (String.ofList ('-' :: letter :: letters))

/-- A word that is read as a flag, be it one of this program's or a request for help. -/
def ReadsAsFlag (word : String) : Prop :=
  ∃ reading, IsWritten reading word

theorem directoryName_plain : '=' ∉ directoryName.toList := by
  decide

namespace Switch

theorem name_plain (switch : Switch) : '=' ∉ switch.name.toList := by
  cases switch <;> decide

theorem name_ne_directoryName (switch : Switch) : switch.name ≠ directoryName := by
  cases switch <;> decide

theorem ofName?_eq_some_iff {name : String} {switch : Switch} :
    ofName? name = some switch ↔ switch.name = name := by
  constructor
  · intro known
    simpa using List.find?_some known
  · rintro rfl
    cases switch <;> decide

theorem mapM_cons_eq_some_iff {letter : Char} {letters : List Char} {switches : List Switch} :
    (letter :: letters).mapM ofLetter? = some switches ↔
      ∃ switch others, ofLetter? letter = some switch ∧ letters.mapM ofLetter? = some others ∧
        switches = switch :: others := by
  cases known : ofLetter? letter <;> cases others : letters.mapM ofLetter? <;>
    simp [known, others, eq_comm]

end Switch

theorem read_long (rest : String) : read ("--" ++ rest) = readLong rest.toList := by
  simp [read]

theorem read_letters {letter : Char} {letters : List Char} {switches : List Switch}
    (known : (letter :: letters).mapM Switch.ofLetter? = some switches) :
    read (String.ofList ('-' :: letter :: letters)) = .switches switches := by
  -- a second hyphen is no letter, so the word is not read as a long name
  have single : letter ≠ '-' := by
    rintro rfl
    simp [Switch.ofLetter?] at known
  rw [read, String.toList_ofList]
  split <;> simp_all

theorem readLong_plain {name : String} (plain : '=' ∉ name.toList)
    (other : name ≠ directoryName) :
    readLong name.toList =
      ((Switch.ofName? name).map fun switch => .switches [switch]).getD .word := by
  rw [readLong, cut_of_notMem plain]
  cases known : Switch.ofName? name <;> simp [other, known]

theorem readLong_valued {name : String} (plain : '=' ∉ name.toList)
    (other : name ≠ directoryName) (value : String) :
    readLong (name ++ "=" ++ value).toList =
      ((Switch.ofName? name).map fun _ => .switchWithValue).getD .word := by
  rw [readLong, cut_valued plain]
  cases known : Switch.ofName? name <;> simp [other, known]

theorem read_of_isWritten (written : IsWritten reading word) : read word = reading := by
  cases written with
  | directory => decide
  | directoryWithValue value =>
      rw [read_long, readLong, cut_valued directoryName_plain]
      simp
  | switch switch =>
      rw [read_long, readLong_plain switch.name_plain switch.name_ne_directoryName,
        Switch.ofName?_eq_some_iff.mpr rfl]
      rfl
  | switchWithValue switch value =>
      rw [read_long, readLong_valued switch.name_plain switch.name_ne_directoryName,
        Switch.ofName?_eq_some_iff.mpr rfl]
      rfl
  | letters known => exact read_letters known

theorem readLong_cases (rest : String) :
    readLong rest.toList = .word ∨ IsWritten (readLong rest.toList) ("--" ++ rest) := by
  rcases name_cases rest with plain | ⟨name, value, plain, rfl⟩
  · by_cases directory : rest = directoryName
    · subst directory
      exact .inr .directory
    · rw [readLong_plain plain directory]
      cases known : Switch.ofName? rest with
      | none => exact .inl rfl
      | some switch =>
          rw [← Switch.ofName?_eq_some_iff.mp known]
          exact .inr (.switch switch)
  · by_cases directory : name = directoryName
    · subst directory
      rw [readLong, cut_valued plain]
      exact .inr (by simpa using .directoryWithValue value)
    · rw [readLong_valued plain directory]
      cases known : Switch.ofName? name with
      | none => exact .inl rfl
      | some switch =>
          rw [← Switch.ofName?_eq_some_iff.mp known]
          exact .inr (.switchWithValue switch value)

/-- A word is no flag, or it is written as the flag that it is read as. -/
theorem read_cases (word : String) : read word = .word ∨ IsWritten (read word) word := by
  fun_cases read word with
  | case1 rest shape =>
      have long : word = "--" ++ String.ofList rest :=
        String.toList_injective (by simpa using shape)
      simpa [long] using readLong_cases (String.ofList rest)
  | case2 letter letters _ shape switches known =>
      have short : word = String.ofList ('-' :: letter :: letters) :=
        String.toList_injective (by simpa using shape)
      exact .inr (short ▸ .letters known)
  | case3 => exact .inl rfl
  | case4 => exact .inl rfl

theorem read_eq_word_iff : read word = .word ↔ ¬ReadsAsFlag word := by
  constructor
  · rintro isWord ⟨reading, written⟩
    rw [read_of_isWritten written] at isWord
    subst isWord
    cases written
  · intro other
    exact (read_cases word).resolve_right fun written => other ⟨_, written⟩

instance (word : String) : Decidable (ReadsAsFlag word) :=
  decidable_of_iff (read word ≠ .word) (by rw [Ne, read_eq_word_iff, not_not])

end Writing

section Flags

/-- A flag with its value, as it can stand before the expression. -/
inductive Flag where
  /-- The directory, with its value as a word of its own. -/
  | directory (value : String)
  /-- The directory, with its value behind an equals sign. -/
  | directoryWithValue (value : String)
  /-- A switch by its long name. -/
  | long (switch : Switch)
  /-- The letter of the only switch of this program that has one. -/
  | letter
  deriving DecidableEq, Repr

namespace Flag

def words : Flag → List String
  | .directory value => ["--" ++ directoryName, value]
  | .directoryWithValue value => ["--" ++ (directoryName ++ "=" ++ value)]
  | .long switch => ["--" ++ switch.name]
  | .letter => ["-q"]

/-- The switch that a flag turns on; a directory turns none on. -/
def switch? : Flag → Option Switch
  | .directory _ => none
  | .directoryWithValue _ => none
  | .long switch => some switch
  | .letter => some .quiet

def directory? : Flag → Option String
  | .directory value => some value
  | .directoryWithValue value => some value
  | .long _ => none
  | .letter => none

/-- A flag of this program, whose value, if it has one, is not empty and no flag. -/
def IsUsable : Flag → Prop
  | .directory value => value ≠ "" ∧ value ≠ "--" ∧ ¬ReadsAsFlag value
  | .directoryWithValue value => value ≠ ""
  | .long switch => switch ≠ .help ∧ switch ≠ .version
  | .letter => True

instance : DecidablePred IsUsable
  | .directory _ => inferInstanceAs (Decidable (_ ∧ _ ∧ _))
  | .directoryWithValue _ => inferInstanceAs (Decidable (_ ≠ _))
  | .long _ => inferInstanceAs (Decidable (_ ∧ _))
  | .letter => inferInstanceAs (Decidable True)

theorem directory?_eq_none_iff {flag : Flag} : flag.directory? = none ↔ flag.switch? ≠ none := by
  cases flag <;> simp [directory?, switch?]

end Flag

/-- The request of flags and the words behind them. -/
def Request.ofFlags (flags : List Flag) (words : List String) : Request where
  directory := flags.findSome? Flag.directory?
  debug := some .debug ∈ flags.map Flag.switch?
  quiet := some .quiet ∈ flags.map Flag.switch?
  compact := some .compact ∈ flags.map Flag.switch?
  check := some .check ∈ flags.map Flag.switch?
  words := words

/-- The words of an expression, with a double hyphen before them that ends the flags, or without one
where the first word is no flag itself. -/
def BeginsExpression (arguments words : List String) : Prop :=
  arguments = "--" :: words ∨
    arguments = words ∧ ∀ first ∈ words.head?, first ≠ "--" ∧ ¬ReadsAsFlag first

/-- Arguments that are usable flags that ask for different things, and then begin an expression. -/
structure Opens (arguments : List String) (flags : List Flag) (words : List String) : Prop where
  usable : ∀ flag ∈ flags, flag.IsUsable
  distinct : (flags.map Flag.switch?).Nodup
  shape : ∃ tail, arguments = flags.flatMap Flag.words ++ tail ∧ BeginsExpression tail words

namespace State

variable {done : List Flag} {request : Request} {switch : Switch} {value : String}

theorem setDirectory_eq_ok_iff (flag : Flag) (given : flag.directory? = some value) :
    setDirectory (Request.ofFlags done []) value = .ok request ↔
      value ≠ "" ∧ flag.switch? ∉ done.map Flag.switch? ∧
        request = Request.ofFlags (done ++ [flag]) [] := by
  have directory : flag.switch? = none := by
    simpa [given] using flag.directory?_eq_none_iff
  have unset : done.findSome? Flag.directory? = none ↔ none ∉ done.map Flag.switch? := by
    simp [Flag.directory?_eq_none_iff]
  simp only [Request.ofFlags, List.map_append, List.findSome?_append, List.map_singleton, directory]
  rw [← unset]
  generalize done.findSome? Flag.directory? = earlier
  generalize done.map Flag.switch? = asked
  cases earlier with
  | some other => simp [setDirectory]
  | none =>
      by_cases empty : value = "" <;> simp [setDirectory, empty, given, eq_comm (b := request)]

theorem turnOn_eq_ok_iff (flag : Flag) (turned : flag.switch? = some switch) :
    turnOn (Request.ofFlags done []) switch = .ok request ↔
      (switch ≠ .help ∧ switch ≠ .version) ∧ flag.switch? ∉ done.map Flag.switch? ∧
        request = Request.ofFlags (done ++ [flag]) [] := by
  have noDirectory : flag.directory? = none := by
    rw [Flag.directory?_eq_none_iff, turned]
    simp
  simp only [Request.ofFlags, List.map_append, List.findSome?_append, List.map_singleton, turned,
    List.findSome?_cons, noDirectory, List.findSome?_nil, Option.or_none]
  -- What was asked for before stays closed, as each switch only looks for itself in it.
  generalize done.map Flag.switch? = asked
  cases switch
  case help | version => simp [turnOn]
  all_goals
    simp only [turnOn]
    split <;> simp_all [eq_comm (b := request)]

variable {state next : State} {arguments rest : List String} {reading : Reading} {word : String}

theorem ne_hyphens_of_isWritten (written : IsWritten reading word) : word ≠ "--" := by
  rintro rfl
  have isWord : read "--" = .word := by decide
  exact read_eq_word_iff.mp isWord ⟨reading, written⟩

/-- The state that a flag leads to, if the reader goes on behind it. -/
def take (state : State) : Reading → Except Refusal State
  | .switches switches => do
    let request ← state.turnAllOn switches
    return ⟨request, .nothing⟩
  | .switchWithValue => .error .unwantedValue
  | .directory => do
    let request ← state.settle
    return ⟨request, .awaited⟩
  | .directoryWithValue value => do
    let request ← setDirectory (← state.settle) value
    return ⟨request, .nothing⟩
  | .word => .ok state

theorem readAll_of_isWritten (written : IsWritten reading word) (rest : List String) :
    readAll state (word :: rest) = state.take reading >>= fun next => readAll next rest := by
  rw [readAll, if_neg (ne_hyphens_of_isWritten written), read_of_isWritten written]
  cases written with
  | directory => simp [take]
  | directoryWithValue value => simp [take]
  | switch switch => simp [take]
  | switchWithValue switch value => rfl
  | letters known => simp [take]

theorem readAll_of_take (written : IsWritten reading word) (taken : state.take reading = .ok next)
    (rest : List String) : readAll state (word :: rest) = readAll next rest := by
  rw [readAll_of_isWritten written, taken]
  rfl

/-- The only letter that does not ask for help is the one of a switch of this program. -/
theorem turnOn_letter {letter : Char} (known : Switch.ofLetter? letter = some switch)
    (turned : turnOn (Request.ofFlags done []) switch = .ok request) :
    letter = 'q' ∧ switch = .quiet ∧ some .quiet ∉ done.map Flag.switch? ∧
      request = Request.ofFlags (done ++ [.letter]) [] := by
  unfold Switch.ofLetter? at known
  split at known <;> cases known
  · exact ⟨rfl, rfl, ((turnOn_eq_ok_iff .letter rfl).mp turned).2⟩
  · cases turned
  · cases turned

/-- Letters that are accepted are one letter, as a second one asks for nothing new. -/
theorem single_of_foldlM {letter : Char} {letters : List Char} {switches : List Switch}
    (known : (letter :: letters).mapM Switch.ofLetter? = some switches)
    (turned : switches.foldlM turnOn (Request.ofFlags done []) = .ok request) :
    letter :: letters = ['q'] ∧ switches = [.quiet] := by
  rcases Switch.mapM_cons_eq_some_iff.mp known with ⟨switch, others, first, remaining, rfl⟩
  rcases Except.bind_eq_ok_iff.mp turned with ⟨next, turned, folded⟩
  obtain ⟨rfl, rfl, -, rfl⟩ := turnOn_letter first turned
  cases letters with
  | nil =>
      cases remaining
      exact ⟨rfl, rfl⟩
  | cons second letters =>
      rcases Switch.mapM_cons_eq_some_iff.mp remaining with ⟨again, others, second, -, rfl⟩
      rcases Except.bind_eq_ok_iff.mp folded with ⟨next, turned, -⟩
      obtain ⟨-, -, fresh, -⟩ := turnOn_letter second turned
      simp [Flag.switch?] at fresh

theorem take_switches (settled : state.settle = .ok (Request.ofFlags done []))
    (switches : List Switch) :
    state.take (.switches switches) = .ok next ↔
      ∃ request, switches.foldlM turnOn (Request.ofFlags done []) = .ok request ∧
        next = ⟨request, .nothing⟩ := by
  have taken : state.take (.switches switches) =
      switches.foldlM turnOn (Request.ofFlags done []) >>=
        fun request => .ok ⟨request, .nothing⟩ := by
    rw [take, turnAllOn, settled]
    rfl
  simp only [taken, Except.bind_eq_ok_iff, Except.ok.injEq, eq_comm (b := next)]

theorem take_switch (flag : Flag) (settled : state.settle = .ok (Request.ofFlags done []))
    (turned : flag.switch? = some switch) :
    state.take (.switches [switch]) = .ok next ↔
      (switch ≠ .help ∧ switch ≠ .version) ∧ flag.switch? ∉ done.map Flag.switch? ∧
        next = ⟨Request.ofFlags (done ++ [flag]) [], .nothing⟩ := by
  rw [take_switches settled]
  simp only [List.foldlM_cons, List.foldlM_nil, bind_pure, turnOn_eq_ok_iff flag turned, and_assoc,
    exists_and_left, exists_eq_left]

theorem take_directoryWithValue (settled : state.settle = .ok (Request.ofFlags done [])) :
    state.take (.directoryWithValue value) = .ok next ↔
      value ≠ "" ∧ none ∉ done.map Flag.switch? ∧
        next = ⟨Request.ofFlags (done ++ [.directoryWithValue value]) [], .nothing⟩ := by
  have taken : state.take (.directoryWithValue value) =
      setDirectory (Request.ofFlags done []) value >>= fun request => .ok ⟨request, .nothing⟩ := by
    rw [take, settled]
    rfl
  simp only [taken, Except.bind_eq_ok_iff, setDirectory_eq_ok_iff (.directoryWithValue value) rfl,
    Flag.switch?, Except.ok.injEq, eq_comm (b := next), and_assoc, exists_and_left, exists_eq_left]

theorem exists_settle_of_flag (written : IsWritten reading word)
    (accepted : readAll state (word :: rest) = .ok request) :
    ∃ settled, state.settle = .ok settled := by
  rw [readAll_of_isWritten written] at accepted
  cases failed : state.settle with
  | ok settled => exact ⟨settled, rfl⟩
  | error refusal =>
      cases written <;> simp only [take, turnAllOn, failed] at accepted <;> cases accepted

/-- What was read before accepted arguments can be settled, unless a value is still awaited. -/
theorem exists_settle (notAwaited : state.pending ≠ .awaited)
    (accepted : readAll state arguments = .ok request) :
    ∃ settled, state.settle = .ok settled := by
  cases arguments with
  | nil => exact ⟨request, accepted⟩
  | cons word rest =>
      rcases read_cases word with isWord | written
      · rw [readAll, isWord] at accepted
        cases failed : state.settle with
        | ok settled => exact ⟨settled, rfl⟩
        | error refusal => simp [failed, notAwaited, Except.map] at accepted
      · exact exists_settle_of_flag written accepted

theorem readAll_value (noEnd : value ≠ "--") (noFlag : ¬ReadsAsFlag value)
    (rest : List String) :
    readAll ⟨request, .awaited⟩ (value :: rest) = readAll ⟨request, .given value⟩ rest := by
  rw [readAll, if_neg noEnd, read_eq_word_iff.mpr noFlag]
  rfl

/-- A directory flag needs a value, so it is followed by one where its arguments are accepted. -/
theorem exists_value {result : Request}
    (accepted : readAll ⟨request, .awaited⟩ arguments = .ok result) :
    ∃ value rest, arguments = value :: rest ∧ value ≠ "--" ∧ ¬ReadsAsFlag value ∧
      readAll ⟨request, .given value⟩ rest = .ok result := by
  cases arguments with
  | nil => cases accepted
  | cons value rest =>
      have noEnd : value ≠ "--" := by
        rintro rfl
        cases accepted
      have noFlag : ¬ReadsAsFlag value := by
        rintro ⟨reading, written⟩
        rcases exists_settle_of_flag written accepted with ⟨settled, failed⟩
        cases failed
      exact ⟨value, rest, rfl, noEnd, noFlag, readAll_value noEnd noFlag rest ▸ accepted⟩

/-- A usable flag that asks for something new is read, and leads to a state that it was read in. -/
theorem exists_step {flag : Flag} (settled : state.settle = .ok (Request.ofFlags done []))
    (usable : flag.IsUsable) (fresh : flag.switch? ∉ done.map Flag.switch?) :
    ∃ next : State, next.settle = .ok (Request.ofFlags (done ++ [flag]) []) ∧
      ∀ rest, readAll state (flag.words ++ rest) = readAll next rest := by
  cases flag with
  | directory value =>
      obtain ⟨filled, noEnd, noFlag⟩ := usable
      have given := (setDirectory_eq_ok_iff (.directory value) rfl).mpr ⟨filled, fresh, rfl⟩
      refine ⟨⟨Request.ofFlags done [], .given value⟩, given, fun rest => ?_⟩
      rw [Flag.words, List.cons_append, readAll_of_isWritten .directory, take, settled]
      exact readAll_value noEnd noFlag rest
  | directoryWithValue value =>
      have taken := (take_directoryWithValue settled).mpr ⟨usable, fresh, rfl⟩
      exact ⟨_, rfl, readAll_of_take (.directoryWithValue value) taken⟩
  | long switch =>
      have taken := (take_switch (.long switch) settled rfl).mpr ⟨usable, fresh, rfl⟩
      exact ⟨_, rfl, readAll_of_take (.switch switch) taken⟩
  | letter =>
      have taken := (take_switch .letter settled rfl).mpr ⟨by decide, fresh, rfl⟩
      exact ⟨_, rfl, readAll_of_take (.letters rfl) taken⟩

theorem readAll_of_beginsExpression (settled : state.settle = .ok (Request.ofFlags done []))
    {words : List String} (begins : BeginsExpression arguments words) :
    readAll state arguments = .ok (Request.ofFlags done words) := by
  rcases begins with rfl | ⟨rfl, noFlag⟩
  · rw [readAll, if_pos rfl, settled]
    rfl
  · cases arguments with
    | nil => rw [readAll, settled]
    | cons word rest =>
        obtain ⟨noEnd, noFlag⟩ := noFlag word rfl
        have notAwaited : state.pending ≠ .awaited := by
          intro awaited
          simp [settle, awaited] at settled
        rw [readAll, if_neg noEnd, read_eq_word_iff.mpr noFlag]
        simp only [if_neg notAwaited, settled]
        rfl

/-- A flag with which accepted arguments begin is usable and asks for something new. -/
theorem exists_flag (settled : state.settle = .ok (Request.ofFlags done []))
    (written : IsWritten reading word) (taken : state.take reading = .ok next)
    (accepted : readAll next rest = .ok request) :
    ∃ (flag : Flag) (next : State) (others : List String),
      word :: rest = flag.words ++ others ∧ flag.IsUsable ∧
        flag.switch? ∉ done.map Flag.switch? ∧
        next.settle = .ok (Request.ofFlags (done ++ [flag]) []) ∧
        readAll next others = .ok request := by
  cases written with
  | directory =>
      rw [take, settled] at taken
      cases taken
      rcases exists_value accepted with ⟨value, others, rfl, noEnd, noFlag, accepted⟩
      rcases exists_settle (by simp) accepted with ⟨given, settled⟩
      have ⟨filled, fresh, shape⟩ := (setDirectory_eq_ok_iff (.directory value) rfl).mp settled
      exact ⟨.directory value, _, others, rfl, ⟨filled, noEnd, noFlag⟩, fresh, shape ▸ settled,
        accepted⟩
  | directoryWithValue value =>
      obtain ⟨filled, fresh, rfl⟩ := (take_directoryWithValue settled).mp taken
      exact ⟨.directoryWithValue value, _, rest, rfl, filled, fresh, rfl, accepted⟩
  | switch switch =>
      obtain ⟨usable, fresh, rfl⟩ := (take_switch (.long switch) settled rfl).mp taken
      exact ⟨.long switch, _, rest, rfl, usable, fresh, rfl, accepted⟩
  | switchWithValue switch value => cases taken
  | letters known =>
      rcases (take_switches settled _).mp taken with ⟨turned, folded, -⟩
      have ⟨single, quiet⟩ := single_of_foldlM known folded
      rw [quiet, take_switch .letter settled rfl] at taken
      obtain ⟨-, fresh, rfl⟩ := taken
      rw [single]
      exact ⟨.letter, _, rest, rfl, trivial, fresh, rfl, accepted⟩

/-- Arguments that are accepted begin the expression, or with a usable flag that asks for something
new. -/
theorem begins_or_flag (settled : state.settle = .ok (Request.ofFlags done []))
    (accepted : readAll state arguments = .ok request) :
    (∃ words, BeginsExpression arguments words) ∨
      ∃ (flag : Flag) (next : State) (rest : List String),
        arguments = flag.words ++ rest ∧ flag.IsUsable ∧
          flag.switch? ∉ done.map Flag.switch? ∧
          next.settle = .ok (Request.ofFlags (done ++ [flag]) []) ∧
          readAll next rest = .ok request := by
  cases arguments with
  | nil => exact .inl ⟨[], .inr ⟨rfl, by simp⟩⟩
  | cons word rest =>
      by_cases ends : word = "--"
      · exact .inl ⟨rest, .inl (by rw [ends])⟩
      · rcases read_cases word with isWord | written
        · refine .inl ⟨word :: rest, .inr ⟨rfl, ?_⟩⟩
          simpa [ends] using read_eq_word_iff.mp isWord
        · rw [readAll_of_isWritten written] at accepted
          rcases Except.bind_eq_ok_iff.mp accepted with ⟨next, taken, accepted⟩
          exact .inr (exists_flag settled written taken accepted)

variable {flags : List Flag} {words : List String}

/-- Usable flags that ask for different things are read one after the other. -/
theorem exists_run (settled : state.settle = .ok (Request.ofFlags done []))
    (usable : ∀ flag ∈ flags, flag.IsUsable)
    (distinct : ((done ++ flags).map Flag.switch?).Nodup) :
    ∃ next : State, next.settle = .ok (Request.ofFlags (done ++ flags) []) ∧
      ∀ rest, readAll state (flags.flatMap Flag.words ++ rest) = readAll next rest := by
  induction flags generalizing state done with
  | nil => exact ⟨state, by simpa using settled, fun _ => rfl⟩
  | cons flag flags ih =>
      rw [List.forall_mem_cons] at usable
      have fresh : flag.switch? ∉ done.map Flag.switch? := by
        rw [List.map_append, List.map_cons, List.nodup_middle, List.nodup_cons, List.mem_append,
          not_or] at distinct
        exact distinct.1.1
      rcases exists_step settled usable.1 fresh with ⟨middle, settled, step⟩
      rw [List.append_cons] at distinct ⊢
      rcases ih settled usable.2 distinct with ⟨next, settled, run⟩
      refine ⟨next, settled, fun rest => ?_⟩
      rw [List.flatMap_cons, List.append_assoc, step, run]

/-- Arguments that are accepted are usable flags that ask for different things, and an expression
behind them. -/
theorem exists_flags (settled : state.settle = .ok (Request.ofFlags done []))
    (distinct : (done.map Flag.switch?).Nodup) (accepted : readAll state arguments = .ok request) :
    ∃ flags words tail, arguments = flags.flatMap Flag.words ++ tail ∧ BeginsExpression tail words ∧
      (∀ flag ∈ flags, flag.IsUsable) ∧ ((done ++ flags).map Flag.switch?).Nodup ∧
      request = Request.ofFlags (done ++ flags) words := by
  -- A flag can be one word or two, so the induction is on the number of words that are left.
  induction size : arguments.length using Nat.strongRecOn generalizing state done arguments with
  | ind size ih =>
      subst size
      rcases begins_or_flag settled accepted with
        ⟨words, begins⟩ | ⟨flag, next, rest, rfl, usable, fresh, settled, accepted⟩
      · rw [readAll_of_beginsExpression settled begins] at accepted
        cases accepted
        exact ⟨[], words, arguments, rfl, begins, by simp, by simpa using distinct, by simp⟩
      · have shorter : rest.length < (flag.words ++ rest).length := by
          cases flag <;> simp only [Flag.words, List.length_append, List.length_cons] <;> omega
        have distinct : ((done ++ [flag]).map Flag.switch?).Nodup := by
          rw [List.map_append, List.map_singleton, List.nodup_middle, List.append_nil]
          exact List.nodup_cons.mpr ⟨fresh, distinct⟩
        rcases ih _ shorter settled distinct accepted rfl with
          ⟨flags, words, tail, rfl, begins, others, distinct, rfl⟩
        rw [List.append_assoc, List.singleton_append] at distinct
        refine ⟨flag :: flags, words, tail, by simp, begins, ?_, distinct, by simp⟩
        exact List.forall_mem_cons.mpr ⟨usable, others⟩

end State

variable {arguments words : List String} {flags : List Flag} {request : Request}

theorem readAll_of_opens (opens : Opens arguments flags words) :
    State.readAll ⟨.empty, .nothing⟩ arguments = .ok (Request.ofFlags flags words) := by
  obtain ⟨usable, distinct, tail, rfl, begins⟩ := opens
  have start : State.settle ⟨.empty, .nothing⟩ = .ok (Request.ofFlags [] []) := rfl
  rcases State.exists_run start usable distinct with ⟨next, settled, run⟩
  rw [run, State.readAll_of_beginsExpression settled begins, List.nil_append]

theorem exists_opens (accepted : State.readAll ⟨.empty, .nothing⟩ arguments = .ok request) :
    ∃ flags words, Opens arguments flags words ∧ request = Request.ofFlags flags words := by
  have start : State.settle ⟨.empty, .nothing⟩ = .ok (Request.ofFlags [] []) := rfl
  rcases State.exists_flags start List.nodup_nil accepted with
    ⟨flags, words, tail, shape, begins, usable, distinct, isRequest⟩
  exact ⟨flags, words, ⟨usable, distinct, tail, shape, begins⟩, isRequest⟩

theorem readArguments_of_opens (opens : Opens arguments flags words) :
    readArguments arguments =
      match words.find? isDeclaredFlag with
      | some word => .error (.lateFlag word)
      | none => .ok (Request.ofFlags flags words) := by
  rw [readArguments, readAll_of_opens opens]
  rfl

theorem readArguments_of_noFlag (opens : Opens arguments flags words)
    (noFlag : ∀ word ∈ words, ¬NamesFlag word) :
    readArguments arguments = .ok (Request.ofFlags flags words) := by
  have none : words.find? isDeclaredFlag = none := by
    simpa only [List.find?_eq_none, isDeclaredFlag_iff] using noFlag
  rw [readArguments_of_opens opens, none]

/-- A flag among the words of an expression is a conflict, and the first one is reported. -/
theorem exists_refusal (opens : Opens arguments flags words)
    (late : ∃ word ∈ words, NamesFlag word) :
    ∃ refusal, readArguments arguments = .error refusal ∧ refusal.kind = .argumentConflict ∧
      ∃ before word after, words = before ++ word :: after ∧ NamesFlag word ∧
        (∀ earlier ∈ before, ¬NamesFlag earlier) ∧ refusal = .lateFlag word := by
  have found : (words.find? isDeclaredFlag).isSome := by
    simpa only [List.find?_isSome, isDeclaredFlag_iff] using late
  rcases Option.isSome_iff_exists.mp found with ⟨word, found⟩
  rcases List.find?_eq_some_iff_append.mp found with ⟨isLate, before, after, shape, first⟩
  refine ⟨.lateFlag word, by rw [readArguments_of_opens opens, found], rfl, before, word, after,
    shape, isDeclaredFlag_iff.mp isLate, ?_, rfl⟩
  simpa [← isDeclaredFlag_iff] using first

theorem readArguments_eq_ok_iff :
    readArguments arguments = .ok request ↔
      ∃ flags words, Opens arguments flags words ∧ (∀ word ∈ words, ¬NamesFlag word) ∧
        request = Request.ofFlags flags words := by
  constructor
  · intro accepted
    rcases Except.bind_eq_ok_iff.mp accepted with ⟨read, readOk, -⟩
    rcases exists_opens readOk with ⟨flags, words, opens, -⟩
    rw [readArguments_of_opens opens] at accepted
    cases late : words.find? isDeclaredFlag with
    | some word => simp [late] at accepted
    | none =>
        rw [late] at accepted
        cases accepted
        refine ⟨flags, words, opens, ?_, rfl⟩
        simpa only [← isDeclaredFlag_iff] using List.find?_eq_none.mp late
  · rintro ⟨flags, words, opens, noFlag, rfl⟩
    exact readArguments_of_noFlag opens noFlag

theorem suffix_of_opens (opens : Opens arguments flags words) : words <:+ arguments := by
  obtain ⟨-, -, tail, rfl, rfl | ⟨rfl, -⟩⟩ := opens
  · exact ⟨flags.flatMap Flag.words ++ ["--"], by simp⟩
  · exact List.suffix_append _ _

end Flags

section Pieces

/-- The pieces of a text between its single spaces. -/
def pieces (text : String) : List String :=
  (text.toList.splitOn ' ').map String.ofList

theorem intercalate_pieces (text : String) : " ".intercalate (pieces text) = text := by
  apply String.toList_injective
  have single : " ".toList = [' '] := by decide
  rw [String.toList_intercalate, pieces, List.map_map, single]
  simp [Function.comp_def, List.intercalate_splitOn]

variable {flags : List Flag} {expression : String}

theorem expression?_ofFlags_pieces :
    (Request.ofFlags flags (pieces expression)).expression? =
      if Token.tokenize expression = [] then none else some expression := by
  simp only [Request.expression?, Request.ofFlags, intercalate_pieces, Token.tokenize_eq_nil_iff]

theorem head?_of_isWritten {word : String} {reading : Reading} (written : IsWritten reading word) :
    word.toList.head? = some '-' := by
  cases written <;> simp

theorem opens_pieces (usable : ∀ flag ∈ flags, flag.IsUsable)
    (distinct : (flags.map Flag.switch?).Nodup)
    (noHyphen : ∀ first ∈ (pieces expression).head?, first.toList.head? ≠ some '-') :
    Opens (flags.flatMap Flag.words ++ pieces expression) flags (pieces expression) := by
  refine ⟨usable, distinct, pieces expression, rfl, .inr ⟨rfl, fun first isFirst => ⟨?_, ?_⟩⟩⟩
  · rintro rfl
    exact noHyphen _ isFirst rfl
  · rintro ⟨reading, written⟩
    exact noHyphen _ isFirst (head?_of_isWritten written)

/-- Splitting an expression into words does not change it. Behind usable flags that ask for
different things, a text that is split at its spaces is given back as it is, and just these flags
are set, if no piece names a flag and the first one does not begin with a hyphen. All that is
accepted are such flags and then words that name no flag. A flag among the words is never taken for
text: it is a conflict, and the first one is reported. -/
theorem readArguments_keeps_expression :
    (∀ (flags : List Flag) (expression : String),
      (∀ flag ∈ flags, flag.IsUsable) → (flags.map Flag.switch?).Nodup →
      (∀ first ∈ (pieces expression).head?, first.toList.head? ≠ some '-') →
      (∀ piece ∈ pieces expression, ¬NamesFlag piece) →
      ∃ request,
        readArguments (flags.flatMap Flag.words ++ pieces expression) = .ok request ∧
        request = Request.ofFlags flags (pieces expression) ∧
        (request.expression? =
          if Token.tokenize expression = [] then none else some expression) ∧
        (Token.tokenize expression = [] ↔ isBlankText expression)) ∧
    (∀ arguments request,
      readArguments arguments = .ok request ↔
        ∃ flags words, Opens arguments flags words ∧ (∀ word ∈ words, ¬NamesFlag word) ∧
          request = Request.ofFlags flags words) ∧
    (∀ arguments request, readArguments arguments = .ok request →
      request.words <:+ arguments ∧ ∀ word ∈ request.words, ¬NamesFlag word) ∧
    (∀ arguments flags words, Opens arguments flags words → (∃ word ∈ words, NamesFlag word) →
      ∃ refusal, readArguments arguments = .error refusal ∧ refusal.kind = .argumentConflict ∧
        ∃ before word after, words = before ++ word :: after ∧ NamesFlag word ∧
          (∀ earlier ∈ before, ¬NamesFlag earlier) ∧ refusal = .lateFlag word) := by
  refine ⟨?_, fun _ _ => readArguments_eq_ok_iff, ?_, fun _ _ _ => exists_refusal⟩
  · intro flags expression usable distinct noHyphen noFlag
    have accepted := readArguments_of_noFlag (opens_pieces usable distinct noHyphen) noFlag
    exact ⟨_, accepted, rfl, expression?_ofFlags_pieces, Token.tokenize_eq_nil_iff expression⟩
  · intro arguments request accepted
    rcases readArguments_eq_ok_iff.mp accepted with ⟨flags, words, opens, noFlag, rfl⟩
    exact ⟨suffix_of_opens opens, noFlag⟩

/-- A text with two spaces in a row behind three flags, and a flag behind an expression. -/
theorem readArguments_keeps_expression_of_search :
    (∃ request,
      readArguments ["--compact", "--cwd", "/tmp", "-q", "(search", "\"a", "", "-1", "--x\")"] =
          .ok request ∧
        request = ⟨some "/tmp", false, true, true, false,
          ["(search", "\"a", "", "-1", "--x\")"]⟩ ∧
        request.expression? = some "(search \"a  -1 --x\")" ∧
        ¬isBlankText "(search \"a  -1 --x\")") ∧
    ∃ refusal, readArguments ["--check", "(list)", "--compact"] = .error refusal ∧
      refusal.kind = .argumentConflict ∧ refusal = .lateFlag "--compact" := by
  obtain ⟨keeps, -, -, late⟩ := readArguments_keeps_expression
  constructor
  · rcases keeps [.long .compact, .directory "/tmp", .letter] "(search \"a  -1 --x\")" (by decide)
      (by decide) (by decide) (by decide) with ⟨request, accepted, rfl, expression, blank⟩
    have filled : ¬isBlankText "(search \"a  -1 --x\")" := by decide
    rw [if_neg (blank.not.mpr filled)] at expression
    exact ⟨_, accepted, rfl, expression, filled⟩
  · rcases late ["--check", "(list)", "--compact"] [.long .check] ["(list)", "--compact"]
      ⟨by decide, by decide, _, rfl, .inr ⟨rfl, by decide⟩⟩ (by decide) with
      ⟨refusal, refused, -, before, word, after, shape, isLate, -, rfl⟩
    have only : ∀ word ∈ ["(list)", "--compact"], NamesFlag word → word = "--compact" := by decide
    rw [only word (by simp [shape]) isLate] at refused
    exact ⟨_, refused, rfl, rfl⟩

end Pieces

end MemoryKeeper.CommandLine

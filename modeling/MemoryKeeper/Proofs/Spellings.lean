import MemoryKeeper.Command.Checks
import MemoryKeeper.Proofs.Blanks
import MemoryKeeper.Proofs.Derivations
import MemoryKeeper.Proofs.Tokens

/-!
# Spelling commands

Each valid command has a spelling: the operation's name and every argument in the
order of the checks, with glyphs for symbols, decimal numbers for depths and
quotes around all other text. A line is accepted only if it stands for a valid
command, and the spelling of a valid command stands for that command, whatever
its texts hold.
-/

namespace MemoryKeeper

open MemoryKeeper.Text

namespace Token

theorem isScannable_name (operation : Operation) : (word operation.name).IsScannable := by
  cases operation <;> exact ⟨_, _, rfl, by decide, by decide, by decide⟩

theorem isScannable_repr (value : Nat) : (number (Nat.repr value)).IsScannable := by
  have digits : ∀ character ∈ Nat.toDigits 10 value, character.isDigit := by
    intro character isDigit
    exact Nat.isDigit_of_mem_toDigits (by decide) (by decide) isDigit
  rcases List.exists_cons_of_ne_nil (Nat.toDigits_ne_nil (n := value) (b := 10)) with
    ⟨character, rest, shape⟩
  rw [shape, List.forall_mem_cons] at digits
  refine ⟨character, rest, ?_, ?_, ?_⟩
  · rw [Nat.repr, String.toList_ofList, shape]
  · simp [startsNumber, digits.1]
  · rw [List.all_eq_true]
    intro continued isDigit
    simp [continuesNumber, digits.2 continued isDigit]

/-- What follows a token if a blank is written before each further one. -/
def spelledBehind (tokens : List Token) : List Char :=
  tokens.flatMap (fun token => ' ' :: token.spell) ++ [')']

theorem spelledBehind_apart (tokens : List Token) :
    (spelledBehind tokens).head?.all endsWord := by
  cases tokens <;> simp [spelledBehind, endsWord, isBlank]

theorem scan_spelledBehind {tokens : List Token}
    (scannable : ∀ token ∈ tokens, token.IsScannable) :
    scan (spelledBehind tokens) = tokens ++ [.closeParen] := by
  induction tokens with
  | nil =>
      have found : scan (spell .closeParen ++ []) = .closeParen :: scan [] :=
        scan_spell (by decide) trivial
      rwa [scan_nil] at found
  | cons token tokens ih =>
      rw [List.forall_mem_cons] at scannable
      have shape : spelledBehind (token :: tokens) =
          ' ' :: (token.spell ++ spelledBehind tokens) := by
        simp [spelledBehind]
      rw [shape, scan_blank (by decide), scan_spell (spelledBehind_apart tokens) scannable.1,
        ih scannable.2]
      rfl

end Token

theorem Number.read?_repr {value : Nat} (small : value < 2 ^ 63) :
    Number.read? (Nat.repr value) = some (.integer value) := by
  have digits : ∀ character ∈ Nat.toDigits 10 value, character.isDigit := by
    intro character isDigit
    exact Nat.isDigit_of_mem_toDigits (by decide) (by decide) isDigit
  have noPoint : '.' ∉ Nat.toDigits 10 value := by
    intro isPoint
    cases digits _ isPoint
  have spelled : SpellsInteger (Nat.toDigits 10 value) value := by
    have unsigned := SpellsInteger.unsigned Nat.toDigits_ne_nil digits
    rwa [Nat.ofDigitChars_ten_toDigits] at unsigned
  rw [← Token.denotes_number_iff, Nat.repr]
  exact .integer (by simpa using noPoint) (by simpa using spelled) (by omega) (by omega)

theorem Number.read?_depth (depth : Depth) :
    Number.read? (Nat.repr depth.value) = some (.integer depth.value) := by
  have bounded : ∀ value ∈ legalDepths, value < 2 ^ 63 := by decide
  exact read?_repr (bounded _ depth.legal)

namespace Command

/-- The texts that slugs may be: lower-case ASCII letters, digits and hyphens, at least one. -/
def IsSlugText (text : String) : Prop :=
  text ≠ "" ∧ ∀ character ∈ text.toList,
    ('a' ≤ character ∧ character ≤ 'z') ∨ ('0' ≤ character ∧ character ≤ '9') ∨ character = '-'

/-- The constraints on the arguments of a command. -/
def IsValid : Command → Prop
  | .search query depth => query ≠ "" ∧ depth.value ∈ [1, 2, 3, 5, 8, 13, 21, 34]
  | .create _ slug content => IsSlugText slug.text ∧ (words content).length < 200
  | .update _ content => (words content).length < 200
  | .history _ depth => depth.value ∈ [1, 2, 3, 5, 8, 13, 21, 34]
  | _ => True

/-- The tokens of a command's arguments. -/
def argumentTokens : Command → List Token
  | .search query depth => [.string query, .number (Nat.repr depth.value)]
  | .create symbol slug content => [.glyph symbol.glyph, .string slug.text, .string content]
  | .view reference => [.string reference]
  | .update reference content => [.string reference, .string content]
  | .delete reference => [.string reference]
  | .history path depth => [.string path, .number (Nat.repr depth.value)]
  | .diff older newer => [.string older, .string newer]
  | .list symbol => symbol.toList.map fun given => .glyph given.glyph

/-- The line that a command is written as in full, with one blank before each argument. -/
def spelling (command : Command) : String :=
  "(" ++ " ".intercalate (command.operation.name ::
    command.argumentTokens.map fun token => String.ofList token.spell) ++ ")"

variable {command : Command} {line : String} {operation : Operation} {arguments : List Literal}

theorem isScannable_argumentTokens (command : Command) :
    ∀ token ∈ command.argumentTokens, token.IsScannable := by
  have string : ∀ text, (Token.string text).IsScannable := fun _ => trivial
  have glyph : ∀ symbol : Symbol, (Token.glyph symbol.glyph).IsScannable := fun symbol =>
    ⟨symbol, rfl⟩
  have number : ∀ value, (Token.number (Nat.repr value)).IsScannable := Token.isScannable_repr
  cases command <;> simp_all [argumentTokens]

theorem toList_spelling (command : Command) :
    command.spelling.toList =
      '(' :: ((Token.word command.operation.name).spell ++
        Token.spelledBehind command.argumentTokens) := by
  have joined : ∀ (name : String) (tokens : List Token),
      (" ".intercalate (name :: tokens.map fun token => String.ofList token.spell)).toList =
        name.toList ++ tokens.flatMap fun token => ' ' :: token.spell := by
    intro name tokens
    induction tokens generalizing name with
    | nil => simp
    | cons token tokens ih =>
        rw [List.map_cons, String.intercalate_cons_cons, String.toList_append, ih]
        simp
  rw [spelling, String.toList_append, String.toList_append, joined, List.append_assoc,
    List.append_assoc]
  rfl

theorem tokenize_spelling (command : Command) :
    Token.tokenize command.spelling =
      .openParen :: .word command.operation.name :: command.argumentTokens ++ [.closeParen] := by
  have bounded : trim command.spelling.toList = command.spelling.toList := by
    have shape : command.spelling.toList = '(' :: ((Token.word command.operation.name).spell ++
        command.argumentTokens.flatMap (fun token => ' ' :: token.spell)) ++ [')'] := by
      rw [toList_spelling, Token.spelledBehind]
      simp
    rw [shape]
    exact trim_bounded (by decide) (by decide) _
  rw [Token.tokenize, bounded, toList_spelling, Token.scan_first (by decide)]
  change Token.openParen :: Token.scan (_ ++ _) = _
  rw [Token.scan_spell (Token.spelledBehind_apart _) (Token.isScannable_name _),
    Token.scan_spelledBehind command.isScannable_argumentTokens]
  rfl

theorem checkContent_eq_ok_iff {content : String} :
    checkContent operation content = .ok () ↔ (words content).length < 200 := by
  rw [checkContent, wordCount_eq]
  split <;> simp_all [contentWordLimit]

theorem requireSymbol_glyph (symbol : Symbol) :
    requireSymbol operation (.glyph symbol.glyph) = .ok symbol := by
  simp [requireSymbol, Literal.text?]

theorem requireSlug_text (slug : Slug) :
    requireSlug operation slug.text = .ok slug := by
  simp [requireSlug]

theorem optionalDepth_of_toNat? {number : Number} {depth : Depth}
    (natural : number.toNat? = some depth.value) :
    optionalDepth operation (some (.number number)) = .ok depth := by
  simp [optionalDepth, Literal.number?, natural]

theorem optionalDepth_value (depth : Depth) :
    optionalDepth operation (some (.number (.integer depth.value))) = .ok depth := by
  have bounded : ∀ value ∈ legalDepths, value < 2 ^ 32 := by decide
  have small := bounded _ depth.legal
  have range : (depth.value : Int) < 4294967296 := by
    omega
  exact optionalDepth_of_toNat? (by simp [Number.toNat?, range])

theorem ofArguments_literals (valid : command.IsValid) :
    ∃ arguments, command.argumentTokens.map Token.literal? = arguments.map some ∧
      ofArguments command.operation arguments = .ok command := by
  cases command with
  | search query depth =>
      refine ⟨[.string query, .number (.integer depth.value)], ?_, ?_⟩
      · simp [argumentTokens, Token.literal?, Number.read?_depth]
      · refine Except.bind_eq_ok_iff.mpr ⟨query, rfl, ?_⟩
        rw [if_neg (by simpa using valid.1)]
        exact Except.bind_eq_ok_iff.mpr ⟨depth, optionalDepth_value _, rfl⟩
  | create symbol slug content =>
      refine ⟨[.glyph symbol.glyph, .string slug.text, .string content], rfl, ?_⟩
      refine Except.bind_eq_ok_iff.mpr ⟨symbol, requireSymbol_glyph _, ?_⟩
      refine Except.bind_eq_ok_iff.mpr ⟨slug.text, rfl, ?_⟩
      refine Except.bind_eq_ok_iff.mpr ⟨slug, requireSlug_text _, ?_⟩
      refine Except.bind_eq_ok_iff.mpr ⟨content, rfl, ?_⟩
      exact Except.bind_eq_ok_iff.mpr ⟨(), checkContent_eq_ok_iff.mpr valid.2, rfl⟩
  | view reference => exact ⟨[.string reference], rfl, rfl⟩
  | update reference content =>
      refine ⟨[.string reference, .string content], rfl, ?_⟩
      refine Except.bind_eq_ok_iff.mpr ⟨reference, rfl, ?_⟩
      refine Except.bind_eq_ok_iff.mpr ⟨content, rfl, ?_⟩
      exact Except.bind_eq_ok_iff.mpr ⟨(), checkContent_eq_ok_iff.mpr valid, rfl⟩
  | delete reference => exact ⟨[.string reference], rfl, rfl⟩
  | history path depth =>
      refine ⟨[.string path, .number (.integer depth.value)], ?_, ?_⟩
      · simp [argumentTokens, Token.literal?, Number.read?_depth]
      · refine Except.bind_eq_ok_iff.mpr ⟨path, rfl, ?_⟩
        exact Except.bind_eq_ok_iff.mpr ⟨depth, optionalDepth_value _, rfl⟩
  | diff older newer => exact ⟨[.string older, .string newer], rfl, rfl⟩
  | list symbol =>
      cases symbol with
      | none => exact ⟨[], rfl, rfl⟩
      | some symbol =>
          refine ⟨[.glyph symbol.glyph], rfl, ?_⟩
          exact Except.bind_eq_ok_iff.mpr ⟨symbol, requireSymbol_glyph _, rfl⟩

theorem isValid_depth (depth : Depth) : depth.value ∈ [1, 2, 3, 5, 8, 13, 21, 34] :=
  depth.legal

theorem isSlugText_text (slug : Slug) : IsSlugText slug.text := by
  have wellFormed := slug.wellFormed
  simp only [isSlug, Bool.and_eq_true, Bool.not_eq_true', List.isEmpty_eq_false_iff, ne_eq,
    String.toList_eq_nil_iff, List.all_eq_true] at wellFormed
  refine ⟨wellFormed.1, ?_⟩
  intro character inside
  have allowed := wellFormed.2 character inside
  simp only [isSlugChar, Bool.or_eq_true, Bool.and_eq_true, decide_eq_true_eq, or_assoc] at allowed
  rcases allowed with letter | digit | hyphen
  · exact .inl letter
  · rw [Char.isDigit, Bool.and_eq_true, decide_eq_true_eq, decide_eq_true_eq] at digit
    exact .inr (.inl digit)
  · exact .inr (.inr hyphen)

theorem isValid_of_ofArguments (accepted : ofArguments operation arguments = .ok command) :
    command.IsValid := by
  cases operation with
  | search =>
      simp only [ofArguments, checkSearch, Except.bind_eq_ok_iff] at accepted
      rcases accepted with ⟨query, -, accepted⟩
      split at accepted
      · cases accepted
      · next nonempty =>
          rcases Except.bind_eq_ok_iff.mp accepted with ⟨depth, -, made⟩
          cases made
          exact ⟨by simpa using nonempty, isValid_depth depth⟩
  | create =>
      simp only [ofArguments] at accepted
      unfold checkCreate at accepted
      split at accepted
      · simp only [Except.bind_eq_ok_iff] at accepted
        rcases accepted with ⟨symbol, -, text, -, slug, -, content, -, ⟨⟩, limited, made⟩
        cases made
        exact ⟨isSlugText_text slug, checkContent_eq_ok_iff.mp limited⟩
      · cases accepted
  | update =>
      simp only [ofArguments] at accepted
      unfold checkUpdate at accepted
      split at accepted
      · simp only [Except.bind_eq_ok_iff] at accepted
        rcases accepted with ⟨reference, -, content, -, ⟨⟩, limited, made⟩
        cases made
        exact checkContent_eq_ok_iff.mp limited
      · cases accepted
  | history =>
      simp only [ofArguments, checkHistory, Except.bind_eq_ok_iff] at accepted
      rcases accepted with ⟨path, -, depth, -, made⟩
      cases made
      exact isValid_depth depth
  | view =>
      rcases Except.bind_eq_ok_iff.mp accepted with ⟨reference, -, made⟩
      cases made
      trivial
  | delete =>
      rcases Except.bind_eq_ok_iff.mp accepted with ⟨reference, -, made⟩
      cases made
      trivial
  | diff =>
      simp only [ofArguments, checkDiff, Except.bind_eq_ok_iff] at accepted
      rcases accepted with ⟨older, -, newer, -, made⟩
      cases made
      trivial
  | list =>
      simp only [ofArguments] at accepted
      unfold checkList at accepted
      split at accepted
      · cases accepted
        trivial
      · rcases Except.bind_eq_ok_iff.mp accepted with ⟨symbol, -, made⟩
        cases made
        trivial

/-- The lines that are accepted stand for valid commands, and every valid command has one. -/
theorem process_spelling :
    (∀ line command, process line = .ok command → command.IsValid) ∧
      ∀ command : Command, command.IsValid → process command.spelling = .ok command := by
  constructor
  · intro line command processed
    rcases Except.bind_eq_ok_iff.mp processed with ⟨expression, -, accepted⟩
    unfold ofExpression at accepted
    split at accepted
    · cases accepted
    · split at accepted
      · cases accepted
      · exact isValid_of_ofArguments accepted
  · intro command valid
    rcases ofArguments_literals valid with ⟨arguments, literals, accepted⟩
    have read : Expression.read command.spelling =
        .ok (.call command.operation.name arguments) := by
      rw [Expression.read, tokenize_spelling, Expression.ofTokens_eq_ok_iff]
      exact .inr ⟨_, _, arguments, rfl, literals, rfl⟩
    refine Except.bind_eq_ok_iff.mpr ⟨_, read, ?_⟩
    rw [ofExpression, Operation.ofName?_name]
    exact accepted

/-- A content that holds quotes, a backslash, parentheses, a glyph and a line break. -/
theorem process_spelling_of_awkward_content :
    let command : Command := .create .goal ⟨"a-1", by decide⟩ "\") \\ (💡\n"
    command.spelling = "(create 🎯 \"a-1\" \"\\\") \\\\ (💡\n\")" ∧
      process command.spelling = .ok command ∧ command.IsValid := by
  intro command
  have valid : command.IsValid := ⟨isSlugText_text _, by decide⟩
  have processed := process_spelling.2 command valid
  exact ⟨by decide, processed, process_spelling.1 _ _ processed⟩

end Command

end MemoryKeeper

import MemoryKeeper.Proofs.Spellings
import MemoryKeeper.Proofs.Vocabulary
import Mathlib.Algebra.Order.Field.Power
import Mathlib.Data.Rat.Cast.Order
import Mathlib.Tactic.Linarith
import Mathlib.Tactic.Positivity

/-!
# The table of checks

Each operation has a row of checks. A check counts the arguments or demands a shape
of one of them, which an argument that is absent need not have. A call is checked
from left to right along the row: the first check that fails is reported with its
own wording, the value that was given and the example of the operation, and a call
that passes all of them is the command with the values of its arguments.
-/

namespace MemoryKeeper

open MemoryKeeper.Text

section Values

variable {negative : Bool} {significand value : ℕ} {power : ℤ} {number : Number}

/-- The rational number that a number is, if it is finite. -/
def Number.value? : Number → Option ℚ
  | .integer value => some value
  | .double (.finite negative significand power) =>
    some ((if negative then -1 else 1) * significand * 2 ^ power)
  | .double _ => none

theorem Double.toNat?_finite :
    (finite negative significand power).toNat? = some value ↔
      (if negative then -1 else 1) * (significand : ℚ) * 2 ^ power = value := by
  by_cases zero : significand = 0
  · simp [toNat?, zero, eq_comm]
  have positive : 0 < (significand : ℚ) * 2 ^ power := by
    have : 0 < (significand : ℚ) := by exact_mod_cast Nat.pos_of_ne_zero zero
    positivity
  cases negative with
  | true =>
      have atLeast : (0 : ℚ) ≤ value := Nat.cast_nonneg value
      simp only [toNat?, if_neg zero, ↓reduceIte, reduceCtorEq, false_iff]
      intro same
      linarith
  | false =>
      simp only [toNat?, if_neg zero, Bool.false_eq_true, ↓reduceIte, one_mul]
      by_cases whole : 0 ≤ power
      · lift power to ℕ using whole
        simp only [Nat.cast_nonneg, ↓reduceIte, Int.toNat_natCast, Option.some.injEq, zpow_natCast,
          Nat.pow_eq]
        norm_cast
      · obtain ⟨places, rfl⟩ : ∃ places : ℕ, power = -places := ⟨(-power).toNat, by omega⟩
        have unit : 0 < 2 ^ places := by positivity
        have same : (significand : ℚ) * 2 ^ (-(places : ℤ)) = value ↔
            significand = value * 2 ^ places := by
          rw [zpow_neg, zpow_natCast, ← div_eq_mul_inv, div_eq_iff (by positivity)]
          norm_cast
        rw [if_neg whole, same, neg_neg, Int.toNat_natCast, Nat.pow_eq]
        constructor
        · intro found
          split at found
          · next divides =>
              rw [Option.some.injEq] at found
              rw [← found, Nat.div_mul_cancel (Nat.dvd_of_mod_eq_zero divides)]
          · cases found
        · rintro rfl
          rw [if_pos (Nat.mul_mod_left _ _), Nat.mul_div_cancel _ unit]

theorem Number.toNat?_eq_some_iff (small : value < 2 ^ 32) :
    number.toNat? = some value ↔ number.value? = some (value : ℚ) := by
  cases number with
  | integer integer =>
      simp only [toNat?, value?, Option.some.injEq, Option.ite_none_right_eq_some, Nat.pow_eq]
      norm_cast
      omega
  | double double =>
      cases double with
      | finite negative significand power =>
          simp only [toNat?, value?, Option.filter_eq_some_iff, decide_eq_true_eq,
            Double.toNat?_finite, Option.some.injEq]
          exact and_iff_left small
      | infinite negative => simp [toNat?, value?, Double.toNat?]
      | undefined => simp [toNat?, value?, Double.toNat?]

/-- The depth of a number is the legal one that the number equals. -/
theorem Depth.ofNat?_toNat? {depth : Depth} :
    number.toNat?.bind ofNat? = some depth ↔ number.value? = some (depth.value : ℚ) := by
  have bounded : ∀ value ∈ legalDepths, value < 2 ^ 32 := by decide
  rw [← Number.toNat?_eq_some_iff (bounded _ depth.legal), Option.bind_eq_some_iff]
  constructor
  · rintro ⟨value, natural, legal⟩
    unfold ofNat? at legal
    split at legal
    · cases legal
      exact natural
    · cases legal
  · intro natural
    exact ⟨depth.value, natural, ofNat?_value depth⟩

end Values

/-- What a check can demand of an argument. -/
inductive Shape where
  | symbol
  | string
  | nonempty
  | slug
  /-- A content below the limit of words. -/
  | brief
  | number
  | depth
  deriving DecidableEq, Repr

/-- The words of an argument that is a string. -/
def Literal.words : Literal → List (List Char)
  | .string text => Text.words text
  | _ => []

namespace Shape

/-- The arguments of a shape. -/
def Fits : Shape → Literal → Prop
  | .symbol, argument => ∃ text ∈ ["💡", "🔄", "🎯", "🌀"],
      argument = .string text ∨ argument = .glyph text ∨ argument = .word text
  | .string, argument => ∃ text, argument = .string text
  | .nonempty, argument => argument ≠ .string ""
  | .slug, argument => ∃ text, argument = .string text ∧ Command.IsSlugText text
  | .brief, argument => argument.words.length < 200
  | .number, argument => ∃ number, argument = .number number
  | .depth, argument => ∃ number, argument = .number number ∧
      ∃ depth : ℕ, depth ∈ [1, 2, 3, 5, 8, 13, 21, 34] ∧ number.value? = some (depth : ℚ)

end Shape

/-- A check with the wording of its failure. -/
inductive Check where
  | count (least : Nat) (wording : String)
  | argument (index : Nat) (shape : Shape) (wording : String)
  deriving DecidableEq, Repr

namespace Operation

/-- The checks of an operation in their order. -/
def checks : Operation → List Check
  | .search =>
    [.count 1 "search requires a query string",
      .argument 0 .string "search requires a query string",
      .argument 0 .nonempty "search query cannot be empty",
      .argument 1 .number "search depth must be a number",
      .argument 1 .depth "search depth must be one of 1, 2, 3, 5, 8, 13, 21, 34"]
  | .create =>
    [.count 3 "create requires a symbol, a slug and content",
      .argument 0 .symbol "one of 💡 🔄 🎯 🌀",
      .argument 1 .string "create slug must be a string",
      .argument 1 .slug "lowercase letters, digits and hyphens (^[a-z0-9-]+$)",
      .argument 2 .string "create content must be a string",
      .argument 2 .brief "fewer than 200 tokens"]
  | .view =>
    [.count 1 "view requires a ref string", .argument 0 .string "view requires a ref string"]
  | .update =>
    [.count 2 "update requires a ref and content",
      .argument 0 .string "update ref must be a string",
      .argument 1 .string "update content must be a string",
      .argument 1 .brief "fewer than 200 tokens"]
  | .delete =>
    [.count 1 "delete requires a ref string", .argument 0 .string "delete requires a ref string"]
  | .history =>
    [.argument 0 .string "history path must be a string",
      .argument 1 .number "history depth must be a number",
      .argument 1 .depth "history depth must be one of 1, 2, 3, 5, 8, 13, 21, 34"]
  | .diff =>
    [.argument 0 .string "diff from must be a string",
      .argument 1 .string "diff to must be a string"]
  | .list => [.argument 0 .symbol "one of 💡 🔄 🎯 🌀"]

/-- The members of an error about missing or mistyped arguments. -/
def refusal (operation : Operation) (wording : String) (value : Option Json) :
    List (String × Json) :=
  [("error", .string "invalid-argument"), ("message", .string wording)] ++
    (value.map fun given => ("value", given)).toList ++
    [("suggestion", .string (Vocabulary.suggestion operation))]

/-- The members of an error about the value of a field. -/
def violation (operation : Operation) (field : String) (value : Json) (expected : String) :
    List (String × Json) :=
  [("error", .string "constraint-violation"), ("field", .string field), ("value", value),
    ("expected", .string expected), ("suggestion", .string (Vocabulary.suggestion operation))]

/-- The members of the error about an argument that lacks a shape. -/
def report (operation : Operation) (wording : String) (argument : Literal) :
    Shape → List (String × Json)
  | .symbol => operation.violation ":symbol" (Vocabulary.value argument) wording
  | .slug => operation.violation ":slug" (Vocabulary.value argument) wording
  | .brief =>
    operation.violation ":content" (.string s!"{argument.words.length} tokens") wording
  | .depth => operation.refusal wording (some (Vocabulary.value argument))
  | .string | .nonempty | .number => operation.refusal wording none

end Operation

namespace Check

/-- Whether arguments pass a check. -/
def IsMetBy : Check → List Literal → Prop
  | .count least _, arguments => least ≤ arguments.length
  | .argument index shape _, arguments =>
      ∀ argument, arguments[index]? = some argument → shape.Fits argument

/-- The members of the error that a call fails a check with. -/
inductive Fails (operation : Operation) (arguments : List Literal) :
    Check → List (String × Json) → Prop where
  | few {least : Nat} {wording : String} (few : arguments.length < least) :
      Fails operation arguments (.count least wording) (operation.refusal wording none)
  | unfit {index : Nat} {shape : Shape} {wording : String} {argument : Literal}
      (present : arguments[index]? = some argument) (unfit : ¬shape.Fits argument) :
      Fails operation arguments (.argument index shape wording)
        (operation.report wording argument shape)

/-- How far into the arguments a check reads. -/
def reach : Check → Nat
  | .count _ _ => 0
  | .argument index _ _ => index + 1

end Check

/-- How far into the arguments the checks of an operation read. -/
def Operation.reach (operation : Operation) : Nat :=
  operation.checks.foldr (fun check others => max check.reach others) 0

/-- A depth is the value of an argument, or 2 if there is none. -/
def Depth.Reflects (depth : Depth) : Option Literal → Prop
  | none => depth.value = 2
  | some argument => ∃ number, argument = .number number ∧ number.value? = some (depth.value : ℚ)

/-- Whether an argument gives a symbol: its text is the glyph, however it is written. -/
def Symbol.IsGivenBy (symbol : Symbol) (argument : Literal) : Prop :=
  argument = .string (Vocabulary.glyph symbol) ∨ argument = .glyph (Vocabulary.glyph symbol) ∨
    argument = .word (Vocabulary.glyph symbol)

namespace Command

/-- Whether a command is one of an operation and has the values of arguments, with the standard ones
in the place of absent arguments. -/
def Reflects : Command → Operation → List Literal → Prop
  | .search query depth, .search, arguments =>
      arguments[0]? = some (.string query) ∧ depth.Reflects arguments[1]?
  | .create symbol slug content, .create, arguments =>
      (∃ argument, arguments[0]? = some argument ∧ symbol.IsGivenBy argument) ∧
        arguments[1]? = some (.string slug.text) ∧ arguments[2]? = some (.string content)
  | .view reference, .view, arguments => arguments[0]? = some (.string reference)
  | .update reference content, .update, arguments =>
      arguments[0]? = some (.string reference) ∧ arguments[1]? = some (.string content)
  | .delete reference, .delete, arguments => arguments[0]? = some (.string reference)
  | .history path depth, .history, arguments =>
      arguments[0]?.getD (.string "memories/") = .string path ∧ depth.Reflects arguments[1]?
  | .diff older newer, .diff, arguments =>
      arguments[0]?.getD (.string "HEAD~1") = .string older ∧
        arguments[1]?.getD (.string "HEAD") = .string newer
  | .list none, .list, arguments => arguments[0]? = none
  | .list (some symbol), .list, arguments =>
      ∃ argument, arguments[0]? = some argument ∧ symbol.IsGivenBy argument
  | _, _, _ => False

/-- The answer to a call that has the given checks still before it. -/
inductive Settles (operation : Operation) (arguments : List Literal) :
    List Check → Except CommandError Command → Prop where
  | accepted {command : Command} (reflects : command.Reflects operation arguments) :
      Settles operation arguments [] (.ok command)
  | failed {check : Check} {rest : List Check} {error : CommandError}
      (fails : check.Fails operation arguments error.members) :
      Settles operation arguments (check :: rest) (.error error)
  | passed {check : Check} {rest : List Check} {answer : Except CommandError Command}
      (met : check.IsMetBy arguments) (further : Settles operation arguments rest answer) :
      Settles operation arguments (check :: rest) answer

/-- The answer to the question whether an argument has a shape: a value that the argument denotes,
or the report. -/
inductive Judges (operation : Operation) (wording : String) (argument : Literal) (shape : Shape)
    {Value : Type} (Denotes : Value → Prop) : Except CommandError Value → Prop where
  | fits {value : Value} (fits : shape.Fits argument) (denotes : Denotes value) :
      Judges operation wording argument shape Denotes (.ok value)
  | unfit {error : CommandError} (unfit : ¬shape.Fits argument)
      (reported : error.members = operation.report wording argument shape) :
      Judges operation wording argument shape Denotes (.error error)

variable {Value : Type} {operation : Operation} {arguments : List Literal} {argument : Literal}
  {index : Nat} {shape : Shape} {name standard text wording : String} {problem : ArgumentProblem}
  {rest : List Check} {Denotes : Value → Prop} {judgement : Except CommandError Value}
  {next : Value → Except CommandError Command}

theorem isMetBy_absent (absent : arguments[index]? = none) :
    (Check.argument index shape wording).IsMetBy arguments := by
  intro argument present
  rw [absent] at present
  cases present

theorem isMetBy_present (present : arguments[index]? = some argument) (fits : shape.Fits argument) :
    (Check.argument index shape wording).IsMetBy arguments := by
  intro other same
  rw [present, Option.some.injEq] at same
  rwa [← same]

theorem members_invalidArgument (operation : Operation) (problem : ArgumentProblem) :
    (CommandError.invalidArgument operation problem).members =
      operation.refusal (problem.message operation) problem.reported? := by
  rw [Operation.refusal, ← Vocabulary.sample_eq_suggestion]
  cases problem <;> rfl

theorem members_constraintViolation (operation : Operation) (violation : Violation) :
    (CommandError.constraintViolation operation violation).members =
      operation.violation violation.field violation.value violation.expected := by
  rw [Operation.violation, ← Vocabulary.sample_eq_suggestion]
  rfl

theorem Settles.few {least : Nat} (few : arguments.length < least)
    (worded : problem.message operation = wording) (silent : problem.reported? = none) :
    Settles operation arguments (.count least wording :: rest)
      (.error (.invalidArgument operation problem)) := by
  apply Settles.failed
  rw [members_invalidArgument, worded, silent]
  exact .few few

theorem Settles.unfit {error : CommandError} (present : arguments[index]? = some argument)
    (unfit : ¬shape.Fits argument)
    (reported : error.members = operation.report wording argument shape) :
    Settles operation arguments (.argument index shape wording :: rest) (.error error) := by
  apply Settles.failed
  rw [reported]
  exact .unfit present unfit

/-- A call whose next step judges an argument passes the check and goes on with the value, or fails
the check. -/
theorem Settles.bind (present : arguments[index]? = some argument)
    (judges : Judges operation wording argument shape Denotes judgement)
    (further : ∀ value, Denotes value → Settles operation arguments rest (next value)) :
    Settles operation arguments (.argument index shape wording :: rest) (judgement >>= next) := by
  cases judges with
  | fits fits denotes => exact .passed (isMetBy_present present fits) (further _ denotes)
  | unfit unfit reported => exact .unfit present unfit reported

theorem judges_string (worded : problem.message operation = wording)
    (silent : problem.reported? = none) :
    Judges operation wording argument .string (fun text => argument = .string text)
      (requireString operation problem (some argument)) := by
  subst worded
  have reported := members_invalidArgument operation problem
  rw [silent] at reported
  cases argument with
  | string text => exact .fits ⟨text, rfl⟩ rfl
  | _ => exact .unfit (by simp [Shape.Fits]) reported

theorem symbol_fits_iff :
    Shape.symbol.Fits argument ↔ ∃ symbol : Symbol, symbol.IsGivenBy argument := by
  have glyphs : ∀ text, text ∈ ["💡", "🔄", "🎯", "🌀"] ↔
      ∃ symbol : Symbol, text = Vocabulary.glyph symbol := by
    intro text
    have written : ["💡", "🔄", "🎯", "🌀"] = Symbol.all.map Vocabulary.glyph := rfl
    rw [written, List.mem_map]
    constructor
    · rintro ⟨symbol, -, rfl⟩
      exact ⟨symbol, rfl⟩
    · rintro ⟨symbol, rfl⟩
      exact ⟨symbol, symbol.mem_all, rfl⟩
  simp only [Shape.Fits, glyphs, Symbol.IsGivenBy]
  constructor
  · rintro ⟨_, ⟨symbol, rfl⟩, given⟩
    exact ⟨symbol, given⟩
  · rintro ⟨symbol, given⟩
    exact ⟨_, ⟨symbol, rfl⟩, given⟩

theorem isGivenBy_iff {symbol : Symbol} :
    symbol.IsGivenBy argument ↔ argument.text? = some symbol.glyph := by
  rw [Symbol.IsGivenBy, ← Vocabulary.glyph_eq]
  cases argument <;> simp [Literal.text?]

theorem requireSymbol_eq_ok_iff {symbol : Symbol} :
    requireSymbol operation argument = .ok symbol ↔ symbol.IsGivenBy argument := by
  rw [isGivenBy_iff]
  unfold requireSymbol
  constructor
  · intro accepted
    split at accepted
    · next found =>
        cases accepted
        rcases Option.bind_eq_some_iff.mp found with ⟨text, written, glyph⟩
        rw [written, Symbol.glyph_of_ofGlyph? glyph]
    · cases accepted
  · intro written
    rw [written, Option.bind_some, Symbol.ofGlyph?_glyph]

theorem judges_symbol :
    Judges operation "one of 💡 🔄 🎯 🌀" argument .symbol
      (fun symbol => symbol.IsGivenBy argument) (requireSymbol operation argument) := by
  cases required : requireSymbol operation argument with
  | ok symbol =>
      have given := requireSymbol_eq_ok_iff.mp required
      exact .fits (symbol_fits_iff.mpr ⟨symbol, given⟩) given
  | error error =>
      refine .unfit ?_ ?_
      · intro fits
        rcases symbol_fits_iff.mp fits with ⟨symbol, given⟩
        rw [requireSymbol_eq_ok_iff.mpr given] at required
        cases required
      · unfold requireSymbol at required
        split at required
        · cases required
        · cases required
          rw [members_constraintViolation, Operation.report, ← Vocabulary.toJson_eq_value]
          rfl

theorem isSlug_of_isSlugText (slugText : IsSlugText text) : isSlug text := by
  rcases slugText with ⟨nonempty, allowed⟩
  have characters : ∀ character ∈ text.toList, isSlugChar character := by
    intro character inside
    have digit : character.isDigit = true ↔ '0' ≤ character ∧ character ≤ '9' := by
      rw [Char.isDigit, Bool.and_eq_true, decide_eq_true_eq, decide_eq_true_eq]
      rfl
    simpa [isSlugChar, digit, or_assoc] using allowed character inside
  simpa [isSlug, nonempty] using characters

theorem judges_slug :
    Judges operation "lowercase letters, digits and hyphens (^[a-z0-9-]+$)" (.string text) .slug
      (fun slug => text = slug.text) (requireSlug operation text) := by
  unfold requireSlug Slug.ofString?
  by_cases wellFormed : isSlug text
  · rw [dif_pos wellFormed]
    exact .fits ⟨text, rfl, isSlugText_text ⟨text, wellFormed⟩⟩ rfl
  · rw [dif_neg wellFormed]
    refine .unfit ?_ (members_constraintViolation operation (.slug text))
    rintro ⟨_, ⟨⟩, slugText⟩
    exact wellFormed (isSlug_of_isSlugText slugText)

theorem judges_content :
    Judges operation "fewer than 200 tokens" (.string text) .brief (fun _ => True)
      (checkContent operation text) := by
  unfold checkContent
  rw [wordCount_eq]
  split
  · next brief => exact .fits brief trivial
  · next long =>
      exact .unfit long (members_constraintViolation operation (.content (words text).length))

theorem judges_depth {number : Number}
    (listed : operation.name ++ " depth must be one of " ++ Depth.legalList = wording) :
    Judges operation wording (.number number) .depth
      (fun depth : Depth => number.value? = some (depth.value : ℚ))
      (optionalDepth operation (some (.number number))) := by
  subst listed
  rw [optionalDepth]
  simp only [Literal.number?]
  split
  · next depth found =>
      have value := Depth.ofNat?_toNat?.mp found
      exact .fits ⟨number, rfl, depth.value, depth.legal, value⟩ value
  · next missing =>
      have reported := members_invalidArgument operation (.depthNotLegal number)
      refine .unfit ?_ (reported.trans ?_)
      rintro ⟨_, ⟨⟩, depth, legal, value⟩
      have found : number.toNat?.bind Depth.ofNat? = some ⟨depth, legal⟩ :=
        Depth.ofNat?_toNat?.mpr value
      rw [missing] at found
      cases found
      rw [Operation.report, ← Vocabulary.toJson_eq_value]
      rfl

/-- A first argument that must be present and a string fails its two checks with one wording. -/
theorem settles_required {next : String → Except CommandError Command}
    (worded : problem.message operation = wording)
    (silent : problem.reported? = none)
    (further : ∀ text, arguments[0]? = some (.string text) →
      Settles operation arguments rest (next text)) :
    Settles operation arguments (.count 1 wording :: .argument 0 .string wording :: rest)
      (requireString operation problem arguments[0]? >>= next) := by
  cases arguments with
  | nil => exact .few Nat.one_pos worded silent
  | cons argument more =>
      refine .passed (Nat.le_add_left 1 _) (.bind rfl (judges_string worded silent) ?_)
      rintro text rfl
      exact further text rfl

/-- A string that may be absent. -/
theorem settles_optional {next : String → Except CommandError Command}
    (worded : (ArgumentProblem.notAString name).message operation = wording)
    (further : ∀ text, arguments[index]?.getD (.string standard) = .string text →
      Settles operation arguments rest (next text)) :
    Settles operation arguments (.argument index .string wording :: rest)
      (optionalString operation name standard arguments[index]? >>= next) := by
  cases present : arguments[index]? with
  | none => exact .passed (isMetBy_absent present) (further standard (by rw [present]; rfl))
  | some argument =>
      refine .bind present (judges_string worded rfl) ?_
      rintro text rfl
      exact further text (by rw [present]; rfl)

/-- A depth that may be absent must be a number first and a legal one then. -/
theorem settles_depth {next : Depth → Except CommandError Command} {legal : String}
    (worded : ArgumentProblem.depthNotANumber.message operation = wording)
    (listed : operation.name ++ " depth must be one of " ++ Depth.legalList = legal)
    (further : ∀ depth : Depth, depth.Reflects arguments[index]? →
      Settles operation arguments rest (next depth)) :
    Settles operation arguments
      (.argument index .number wording :: .argument index .depth legal :: rest)
      (optionalDepth operation arguments[index]? >>= next) := by
  cases present : arguments[index]? with
  | none =>
      refine .passed (isMetBy_absent present) (.passed (isMetBy_absent present) ?_)
      exact further .standard (by rw [present]; rfl)
  | some argument =>
      cases argument with
      | number number =>
          refine .passed (isMetBy_present present ⟨number, rfl⟩) ?_
          refine .bind present (judges_depth listed) ?_
          intro depth value
          exact further depth (by rw [present]; exact ⟨number, rfl, value⟩)
      | _ =>
          subst worded
          exact .unfit present (by simp [Shape.Fits])
            (members_invalidArgument operation .depthNotANumber)

theorem settles_search :
    Settles .search arguments (Operation.checks .search) (checkSearch arguments) := by
  refine settles_required (by decide) rfl fun query present => ?_
  by_cases empty : query = ""
  · subst empty
    exact .unfit present (fun nonempty => nonempty rfl)
      (members_invalidArgument .search (.empty "query"))
  · refine .passed (isMetBy_present present (by simpa [Shape.Fits] using empty)) ?_
    simp only [String.isEmpty_iff, if_neg empty]
    refine settles_depth (by decide) (by decide) fun depth reflects => ?_
    exact .accepted ⟨present, reflects⟩

theorem settles_create :
    Settles .create arguments (Operation.checks .create) (checkCreate arguments) := by
  rcases arguments with _ | ⟨symbol, _ | ⟨slug, _ | ⟨content, more⟩⟩⟩
  · exact .few (by simp) (by decide) rfl
  · exact .few (by simp) (by decide) rfl
  · exact .few (by simp) (by decide) rfl
  · refine .passed (Nat.le_add_left 3 _) ?_
    refine .bind rfl judges_symbol fun given isGiven => ?_
    refine .bind rfl (judges_string (by decide) rfl) ?_
    rintro text rfl
    refine .bind rfl judges_slug ?_
    rintro slug rfl
    refine .bind rfl (judges_string (by decide) rfl) ?_
    rintro content rfl
    refine .bind rfl judges_content fun _ _ => ?_
    exact .accepted ⟨⟨symbol, rfl, isGiven⟩, rfl, rfl⟩

theorem settles_update :
    Settles .update arguments (Operation.checks .update) (checkUpdate arguments) := by
  rcases arguments with _ | ⟨reference, _ | ⟨content, more⟩⟩
  · exact .few (by simp) (by decide) rfl
  · exact .few (by simp) (by decide) rfl
  · refine .passed (Nat.le_add_left 2 _) ?_
    refine .bind rfl (judges_string (by decide) rfl) ?_
    rintro reference rfl
    refine .bind rfl (judges_string (by decide) rfl) ?_
    rintro content rfl
    refine .bind rfl judges_content fun _ _ => ?_
    exact .accepted ⟨rfl, rfl⟩

theorem settles_history :
    Settles .history arguments (Operation.checks .history) (checkHistory arguments) := by
  refine settles_optional (by decide) fun path stated => ?_
  refine settles_depth (by decide) (by decide) fun depth reflects => ?_
  exact .accepted ⟨stated, reflects⟩

theorem settles_diff :
    Settles .diff arguments (Operation.checks .diff) (checkDiff arguments) := by
  refine settles_optional (by decide) fun older olderStated => ?_
  refine settles_optional (by decide) fun newer newerStated => ?_
  exact .accepted ⟨olderStated, newerStated⟩

theorem settles_list :
    Settles .list arguments (Operation.checks .list) (checkList arguments) := by
  cases arguments with
  | nil => exact .passed (isMetBy_absent rfl) (.accepted rfl)
  | cons argument more =>
      refine .bind rfl judges_symbol fun symbol given => ?_
      exact .accepted ⟨argument, rfl, given⟩

/-- Every operation makes the checks of its row. -/
theorem settles_ofArguments (operation : Operation) (arguments : List Literal) :
    Settles operation arguments operation.checks (ofArguments operation arguments) := by
  cases operation with
  | search => exact settles_search
  | create => exact settles_create
  | view =>
      refine settles_required (by decide) rfl fun reference present => ?_
      exact .accepted present
  | update => exact settles_update
  | delete =>
      refine settles_required (by decide) rfl fun reference present => ?_
      exact .accepted present
  | history => exact settles_history
  | diff => exact settles_diff
  | list => exact settles_list

/-- Of the checks that a call is settled by, the first that fails makes the error, and if none does
the command is the one that is called. -/
theorem Settles.spec {checks : List Check} {answer : Except CommandError Command}
    (settles : Settles operation arguments checks answer) :
    (∃ before check after error, checks = before ++ check :: after ∧
        (∀ earlier ∈ before, earlier.IsMetBy arguments) ∧
        check.Fails operation arguments error.members ∧ answer = .error error) ∨
      ((∀ check ∈ checks, check.IsMetBy arguments) ∧
        ∃ command, answer = .ok command ∧ command.Reflects operation arguments) := by
  induction settles with
  | accepted reflects => exact .inr ⟨by simp, _, rfl, reflects⟩
  | failed fails => exact .inl ⟨[], _, _, _, rfl, by simp, fails, rfl⟩
  | passed met further ih =>
      rcases ih with ⟨before, check, after, error, rfl, earlier, fails, rfl⟩ | ⟨others, accepted⟩
      · exact .inl ⟨_ :: before, check, after, error, rfl, List.forall_mem_cons.mpr ⟨met, earlier⟩,
          fails, rfl⟩
      · exact .inr ⟨List.forall_mem_cons.mpr ⟨met, others⟩, accepted⟩

theorem ofArguments_take (operation : Operation) (arguments : List Literal) :
    ofArguments operation (arguments.take operation.reach) = ofArguments operation arguments := by
  rcases arguments with _ | ⟨first, _ | ⟨second, _ | ⟨third, more⟩⟩⟩ <;> cases operation <;> rfl

theorem ofExpression_call (operation : Operation) (arguments : List Literal) :
    ofExpression (.call operation.name arguments) = ofArguments operation arguments := by
  rw [ofExpression, Operation.ofName?_name]

/-- What is no call has no operation, a name of no operation is answered with all of them in order,
and a call is settled by the row of its operation. Arguments that the row does not read make no
difference, and symbols are taken by their glyph however it is written. -/
theorem ofExpression_settles :
    (∀ value, ∃ error, ofExpression (.literal value) = .error error ∧
      error.members =
        [("error", .string "parse-error"), ("message", .string "Expected operation")]) ∧
    (∀ name arguments, name ∉ Vocabulary.names →
      ∃ error, ofExpression (.call name arguments) = .error error ∧
        error.members = [("error", .string "unknown-operation"), ("operation", .string name),
          ("expected", .array (["create", "delete", "diff", "history", "list", "search", "update",
            "view"].map .string))]) ∧
    (∀ (operation : Operation) arguments,
      (∃ before check after error, operation.checks = before ++ check :: after ∧
          (∀ earlier ∈ before, earlier.IsMetBy arguments) ∧
          check.Fails operation arguments error.members ∧
          ofExpression (.call (Vocabulary.name operation) arguments) = .error error) ∨
        ((∀ check ∈ operation.checks, check.IsMetBy arguments) ∧
          ∃ command, ofExpression (.call (Vocabulary.name operation) arguments) = .ok command ∧
            command.Reflects operation arguments)) ∧
    (∀ (operation : Operation) arguments,
      ofExpression (.call (Vocabulary.name operation) (arguments.take operation.reach)) =
        ofExpression (.call (Vocabulary.name operation) arguments)) ∧
    ∀ operation argument, (∃ symbol, requireSymbol operation argument = .ok symbol) ↔
      ∃ text ∈ ["💡", "🔄", "🎯", "🌀"],
        argument = .string text ∨ argument = .glyph text ∨ argument = .word text := by
  simp only [← Vocabulary.name_eq]
  refine ⟨?_, ?_, ?_, ?_, ?_⟩
  · exact fun _ => ⟨_, rfl, rfl⟩
  · intro name arguments foreign
    have unknown : Operation.ofName? name = none := by
      rw [Option.eq_none_iff_forall_ne_some]
      intro operation found
      exact foreign (Vocabulary.mem_names_iff.mpr
        ⟨operation, (Operation.name_of_ofName? found).symm⟩)
    exact ⟨.unknownOperation name, by rw [ofExpression, unknown], rfl⟩
  · intro operation arguments
    rw [ofExpression_call]
    exact (settles_ofArguments operation arguments).spec
  · intro operation arguments
    rw [ofExpression_call, ofExpression_call, ofArguments_take]
  · intro operation argument
    simp only [requireSymbol_eq_ok_iff]
    exact symbol_fits_iff.symm

/-- Names are matched exactly. A call whose depth is not among the legal ones passes the checks
before it and has the number reported, and a call that gives no depth has the standard one. -/
theorem ofExpression_settles_of_depths :
    ("Search" ∉ Vocabulary.names ∧
      ∃ error, ofExpression (.call "Search" []) = .error error ∧
        error.members = [("error", .string "unknown-operation"), ("operation", .string "Search"),
          ("expected", .array (["create", "delete", "diff", "history", "list", "search", "update",
            "view"].map .string))]) ∧
    (∃ before check after error, Operation.checks .search = before ++ check :: after ∧
      (∀ earlier ∈ before, earlier.IsMetBy [.string "a", .number (.integer 4)]) ∧
      check.Fails .search [.string "a", .number (.integer 4)] error.members ∧
      ofExpression (.call "search" [.string "a", .number (.integer 4)]) = .error error ∧
      error.members = [("error", .string "invalid-argument"),
        ("message", .string "search depth must be one of 1, 2, 3, 5, 8, 13, 21, 34"),
        ("value", .integer 4), ("suggestion", .string "(search \"authentication\" 3)")]) ∧
    ∃ command, ofExpression (.call "search" [.string "a"]) = .ok command ∧
      command.Reflects .search [.string "a"] ∧ command = .search "a" ⟨2, by decide⟩ := by
  have foreign : "Search" ∉ Vocabulary.names := by decide
  have refused : ofExpression (.call "search" [.string "a", .number (.integer 4)]) =
      .error (.invalidArgument .search (.depthNotLegal (.integer 4))) := by decide
  have accepted : ofExpression (.call "search" [.string "a"]) =
      .ok (.search "a" ⟨2, by decide⟩) := by decide
  refine ⟨⟨foreign, ofExpression_settles.2.1 "Search" [] foreign⟩, ?_, ?_⟩
  · rcases ofExpression_settles.2.2.1 .search [.string "a", .number (.integer 4)] with
      ⟨before, check, after, error, split, earlier, fails, answered⟩ | ⟨-, command, answered, -⟩
    · refine ⟨before, check, after, error, split, earlier, fails, answered, ?_⟩
      cases refused.symm.trans answered
      rfl
    · cases refused.symm.trans answered
  · rcases ofExpression_settles.2.2.1 .search [.string "a"] with
      ⟨before, check, after, error, -, -, -, answered⟩ | ⟨-, command, answered, reflects⟩
    · cases accepted.symm.trans answered
    · refine ⟨command, answered, reflects, ?_⟩
      cases accepted.symm.trans answered
      rfl

-- Every argument of this call has a defect, and the first of them is reported.
example : ofExpression (.call "create" [.word "x", .string "No Slug", .number (.integer 1)]) =
    .error (.constraintViolation .create (.symbol (.word "x"))) := by
  decide

end Command

end MemoryKeeper

import MemoryKeeper.Execution.Outcome
import MemoryKeeper.Proofs.Printing
import MemoryKeeper.Proofs.Vocabulary

/-!
# Printed responses

A response is a table of fields: one that tells whether the command succeeded, one
that names the operation or the kind of the error, and those of the outcome, the
command or the error. Some fields may be absent. What is printed reads back as the
object of the fields that are present, in either layout. No two fields of one
response have the same name, so each is found under its name, and nothing is found
under the name of an absent one.

The table says what every field holds in the words of the language and in the parts
that the response was made of, and never by the functions that print it.

Numbers must be ones that a program can have: lines of files and positions of
tokens have 64 bits, and so have reported integers. A reported double that is not
finite is null.
-/

namespace MemoryKeeper

open Git (SearchHit CommitSummary)

namespace Json

/-- Whether no object in a value has two members with the same name. -/
inductive HasDistinctNames : Json → Prop where
  | atom {value : Json} (noArray : ∀ items, value ≠ .array items)
      (noObject : ∀ members, value ≠ .object members) : HasDistinctNames value
  | array {items : List Json} (each : ∀ item ∈ items, HasDistinctNames item) :
      HasDistinctNames (.array items)
  | object {members : List (String × Json)} (names : (members.map Prod.fst).Nodup)
      (each : ∀ member ∈ members, HasDistinctNames member.2) : HasDistinctNames (.object members)

/-- The members of a table of fields: those that hold something. -/
def present (fields : List (String × Option Json)) : List (String × Json) :=
  fields.flatMap fun field => optionalMember field.1 field.2

end Json

/-- A line that was found, with its file and its number. -/
def Git.SearchHit.record (hit : SearchHit) : Json :=
  .object [("path", .string hit.path), ("line", .integer hit.line), ("text", .string hit.text)]

/-- A commit of a log. -/
def Git.CommitSummary.record (commit : CommitSummary) : Json :=
  .object [("hash", .string commit.hash), ("date", .string commit.date),
    ("subject", .string commit.subject)]

/-- A memory of a listing. -/
def ListedMemory.record (memory : ListedMemory) : Json :=
  .object [("symbol", .string (Vocabulary.glyph memory.symbol)),
    ("slug", .string memory.slug.text), ("path", .string memory.path)]

/-- A reported number, null in the place of a double that is not finite. -/
def Number.printed : Number → Json
  | .integer value => .integer value
  | .double (.finite negative significand power) => .double (.finite negative significand power)
  | .double _ => .null

/-- A reported literal. -/
def Literal.printed : Literal → Json
  | .string text | .glyph text | .word text => .string text
  | .number given => given.printed

/-- The arguments of a command as fields. -/
def Command.fields : Command → List (String × Option Json)
  | .search query depth => [("query", some (.string query)), ("depth", some (.integer depth.value))]
  | .create symbol slug content =>
    [("symbol", some (.string (Vocabulary.glyph symbol))), ("slug", some (.string slug.text)),
      ("content", some (.string content))]
  | .view reference => [("ref", some (.string reference))]
  | .update reference content =>
    [("ref", some (.string reference)), ("content", some (.string content))]
  | .delete reference => [("ref", some (.string reference))]
  | .history path depth => [("path", some (.string path)), ("depth", some (.integer depth.value))]
  | .diff older newer => [("from", some (.string older)), ("to", some (.string newer))]
  | .list symbol => [("symbol", symbol.map fun given => .string (Vocabulary.glyph given))]

/-- The fields of an outcome besides its operation. -/
def Outcome.fields : Outcome → List (String × Option Json)
  | .search query depth hits commits =>
    [("query", some (.string query)), ("depth", some (.integer depth.value)),
      ("matches", some (.array (hits.map SearchHit.record))),
      ("commits", some (.array (commits.map CommitSummary.record)))]
  | .create path symbol slug commit =>
    [("path", some (.string path)), ("symbol", some (.string (Vocabulary.glyph symbol))),
      ("slug", some (.string slug.text)), ("commit", some (.string commit))]
  | .view reference path content =>
    [("ref", some (.string reference)), ("path", path.map .string),
      ("content", some (.string content))]
  | .update path commit => [("path", some (.string path)), ("commit", some (.string commit))]
  | .delete path commit => [("path", some (.string path)), ("commit", some (.string commit))]
  | .history path depth commits =>
    [("path", some (.string path)), ("depth", some (.integer depth.value)),
      ("commits", some (.array (commits.map CommitSummary.record)))]
  | .diff older newer text =>
    [("from", some (.string older)), ("to", some (.string newer)), ("diff", some (.string text))]
  | .list symbol memories =>
    [("symbol", symbol.map fun given => .string (Vocabulary.glyph given)),
      ("memories", some (.array (memories.map ListedMemory.record)))]

/-- The wording of a problem with a line. -/
def SyntaxProblem.wording : SyntaxProblem → String
  | .unexpectedEnd => "Unexpected end of input"
  | .unexpectedClose => "Unexpected token: )"
  | .operationExpected => "Expected operation name after ("
  | .closeMissing => "Missing closing paren"
  | .nested => "Nested expressions are not supported"
  | .invalidNumber text => "Invalid number literal: " ++ text
  | .trailing => "Unexpected tokens after expression"
  | .notACall => "Expected operation"

/-- The wording of a problem with the arguments of an operation. -/
def ArgumentProblem.wording (operation : Operation) : ArgumentProblem → String
  | .required what => Vocabulary.name operation ++ " requires " ++ what
  | .empty argument => Vocabulary.name operation ++ " " ++ argument ++ " cannot be empty"
  | .notAString argument => Vocabulary.name operation ++ " " ++ argument ++ " must be a string"
  | .depthNotANumber => Vocabulary.name operation ++ " depth must be a number"
  | .depthNotLegal _ =>
    Vocabulary.name operation ++ " depth must be one of 1, 2, 3, 5, 8, 13, 21, 34"

/-- The number that a problem reports, if it reports one. -/
def ArgumentProblem.given? : ArgumentProblem → Option Json
  | .depthNotLegal given => some given.printed
  | _ => none

/-- The field that a violation is about, the value that was given, and what was expected of it. -/
def Violation.fields : Violation → List (String × Option Json)
  | .symbol given =>
    [("field", some (.string ":symbol")), ("value", some given.printed),
      ("expected", some (.string "one of 💡 🔄 🎯 🌀"))]
  | .slug given =>
    [("field", some (.string ":slug")), ("value", some (.string given)),
      ("expected", some (.string "lowercase letters, digits and hyphens (^[a-z0-9-]+$)"))]
  | .content words =>
    [("field", some (.string ":content")), ("value", some (.string s!"{words} tokens")),
      ("expected", some (.string "fewer than 200 tokens"))]

/-- The fields of an error besides its kind. -/
def CommandError.fields : CommandError → List (String × Option Json)
  | .parse problem position =>
    [("message", some (.string problem.wording)),
      ("position", position.map fun index => .integer index)]
  | .unknownOperation name =>
    [("operation", some (.string name)),
      ("expected", some (.array (Vocabulary.names.map .string)))]
  | .constraintViolation operation violation =>
    violation.fields ++ [("suggestion", some (.string (Vocabulary.suggestion operation)))]
  | .invalidArgument operation problem =>
    [("message", some (.string (problem.wording operation))),
      ("value", problem.given?),
      ("suggestion", some (.string (Vocabulary.suggestion operation)))]
  | .git command complaint suggestion =>
    [("command", some (.string command)), ("stderr", some (.string complaint)),
      ("suggestion", suggestion.map .string)]
  | .memory text suggestion =>
    [("message", some (.string text)), ("suggestion", suggestion.map .string)]

namespace Response

/-- The name of the operation that succeeded or was found to be valid. -/
def name? : Response → Option String
  | .done (.search ..) | .checked (.search ..) => some "search"
  | .done (.create ..) | .checked (.create ..) => some "create"
  | .done (.view ..) | .checked (.view ..) => some "view"
  | .done (.update ..) | .checked (.update ..) => some "update"
  | .done (.delete ..) | .checked (.delete ..) => some "delete"
  | .done (.history ..) | .checked (.history ..) => some "history"
  | .done (.diff ..) | .checked (.diff ..) => some "diff"
  | .done (.list ..) | .checked (.list ..) => some "list"
  | .failed _ => none

/-- The kind of the error that was met. -/
def kind? : Response → Option String
  | .failed (.parse ..) => some "parse-error"
  | .failed (.unknownOperation ..) => some "unknown-operation"
  | .failed (.constraintViolation ..) => some "constraint-violation"
  | .failed (.invalidArgument ..) => some "invalid-argument"
  | .failed (.git ..) => some "git-error"
  | .failed (.memory ..) => some "memory-error"
  | _ => none

/-- The fields of a response besides the one that tells whether the command succeeded. -/
def fields (response : Response) : List (String × Option Json) :=
  ("op", response.name?.map .string) :: ("error", response.kind?.map .string) ::
    match response with
    | .done outcome => outcome.fields
    | .checked command => [("params", some (.object (Json.present command.fields)))]
    | .failed error => error.fields

end Response

/-- Whether a number is an integer of 64 bits or a double in its kept form. -/
def Number.Fits : Number → Prop
  | .integer value => -9223372036854775808 ≤ value ∧ value ≤ 9223372036854775807
  | .double (.finite _ significand power) => Double.IsCanonical significand power
  | .double _ => True

/-- Whether the numbers in a response are ones that a program can have. -/
def Response.Fits : Response → Prop
  | .done (.search _ _ hits _) => ∀ hit ∈ hits, hit.line < 2 ^ 64
  | .failed (.parse _ position) => ∀ index ∈ position, index < 2 ^ 64
  | .failed (.constraintViolation _ (.symbol (.number given))) => given.Fits
  | .failed (.invalidArgument _ (.depthNotLegal given)) => given.Fits
  | _ => True

namespace Json

variable {fields : List (String × Option Json)}

theorem mem_present {member : String × Json} :
    member ∈ present fields ↔ (member.1, some member.2) ∈ fields := by
  rcases member with ⟨name, value⟩
  simp only [present, List.mem_flatMap, Prod.exists]
  constructor
  · rintro ⟨other, held, among, found⟩
    cases held with
    | none => cases found
    | some held =>
        rw [optionalMember, List.mem_singleton] at found
        cases found
        exact among
  · intro among
    exact ⟨name, some value, among, by simp [optionalMember]⟩

theorem sublist_names_present (fields : List (String × Option Json)) :
    ((present fields).map Prod.fst).Sublist (fields.map Prod.fst) := by
  induction fields with
  | nil => exact .slnil
  | cons field fields ih =>
      rcases field with ⟨name, _ | value⟩
      · exact ih.cons name
      · exact ih.cons_cons name

theorem lookup_present_of_notMem {name : String} (absent : name ∉ fields.map Prod.fst) :
    (present fields).lookup name = none := by
  rw [List.lookup_eq_none_iff]
  rintro ⟨other, value⟩ among
  have listed := (sublist_names_present fields).subset (List.mem_map_of_mem among)
  simp only [bne_iff_ne]
  rintro rfl
  exact absent listed

/-- In a table without repeated names every field is found under its name. -/
theorem lookup_present (names : (fields.map Prod.fst).Nodup) :
    ∀ field ∈ fields, (present fields).lookup field.1 = field.2 := by
  induction fields with
  | nil => simp
  | cons field fields ih =>
      rcases field with ⟨name, held⟩
      rw [List.map_cons, List.nodup_cons] at names
      have shape : present ((name, held) :: fields) = optionalMember name held ++ present fields :=
        rfl
      rw [List.forall_mem_cons, shape]
      constructor
      · cases held with
        | none => exact lookup_present_of_notMem names.1
        | some value => simp [optionalMember]
      · intro other among
        have different : other.1 ≠ name := by
          rintro same
          exact names.1 (List.mem_map.mpr ⟨other, among, same⟩)
        have found := ih names.2 other among
        cases held with
        | none => exact found
        | some value =>
            rw [optionalMember, List.singleton_append, List.lookup_cons, beq_false_of_ne different]
            exact found

theorem fits_string (text : String) : Fits (.string text) :=
  .scalar trivial

theorem fits_natCast {value : ℕ} (small : value < 2 ^ 64) : Fits (.integer value) := by
  apply Fits.scalar
  rw [IsScalar]
  omega

theorem fits_number {given : Number} (fits : given.Fits) : Fits given.toJson := by
  apply Fits.scalar
  cases given with
  | integer value =>
      rcases fits with ⟨lower, upper⟩
      exact ⟨lower, by omega⟩
  | double value => cases value <;> exact fits

theorem asPrintedItems_map {Item : Type} {shape record : Item → Json}
    (each : ∀ item, (shape item).asPrinted = record item) (items : List Item) :
    asPrintedItems (items.map shape) = items.map record := by
  induction items with
  | nil => rfl
  | cons item items ih => rw [List.map_cons, List.map_cons, asPrintedItems, each, ih]

theorem hasDistinctNames_string (text : String) : HasDistinctNames (.string text) :=
  .atom (by simp) (by simp)

theorem hasDistinctNames_integer (value : ℤ) : HasDistinctNames (.integer value) :=
  .atom (by simp) (by simp)

theorem asPrinted_number (given : Number) : given.toJson.asPrinted = given.printed := by
  rcases given with value | (_ | _ | _) <;> rfl

theorem asPrinted_literal (given : Literal) : given.toJson.asPrinted = given.printed := by
  cases given with
  | number given => exact asPrinted_number given
  | _ => rfl

theorem hasDistinctNames_number (given : Number) : HasDistinctNames given.printed := by
  rcases given with value | (_ | _ | _) <;> exact .atom (by simp [Number.printed])
    (by simp [Number.printed])

theorem hasDistinctNames_literal (given : Literal) : HasDistinctNames given.printed := by
  cases given with
  | number given => exact hasDistinctNames_number given
  | _ => exact hasDistinctNames_string _

theorem hasDistinctNames_map {Item : Type} {shape : Item → Json}
    (each : ∀ item, (shape item).HasDistinctNames) (items : List Item) :
    HasDistinctNames (.array (items.map shape)) := by
  apply HasDistinctNames.array
  intro value among
  rcases List.mem_map.mp among with ⟨item, -, rfl⟩
  exact each item

/-- An object of strings and integers. -/
theorem hasDistinctNames_record {members : List (String × Json)}
    (names : (members.map Prod.fst).Nodup)
    (atoms : ∀ member ∈ members, (∃ text, member.2 = .string text) ∨
      ∃ value, member.2 = .integer value) : HasDistinctNames (.object members) := by
  refine .object names ?_
  intro member among
  rcases atoms member among with ⟨text, held⟩ | ⟨value, held⟩
  · exact held ▸ hasDistinctNames_string text
  · exact held ▸ hasDistinctNames_integer value

end Json

section Records

theorem asPrinted_hit (hit : SearchHit) : hit.toJson.asPrinted = hit.record :=
  rfl

theorem asPrinted_commit (commit : CommitSummary) : commit.toJson.asPrinted = commit.record :=
  rfl

theorem asPrinted_listed (memory : ListedMemory) : memory.toJson.asPrinted = memory.record := by
  rw [ListedMemory.record, ← Vocabulary.glyph_eq]
  rfl

theorem hasDistinctNames_hit (hit : SearchHit) : hit.record.HasDistinctNames :=
  Json.hasDistinctNames_record (by simp) (by simp)

theorem hasDistinctNames_commit (commit : CommitSummary) : commit.record.HasDistinctNames :=
  Json.hasDistinctNames_record (by simp) (by simp)

theorem hasDistinctNames_listed (memory : ListedMemory) : memory.record.HasDistinctNames :=
  Json.hasDistinctNames_record (by simp) (by simp)

theorem fits_hit {hit : SearchHit} (small : hit.line < 2 ^ 64) : hit.toJson.Fits := by
  apply Json.Fits.object
  simp [Json.fits_string, Json.fits_natCast small]

theorem fits_commit (commit : CommitSummary) : commit.toJson.Fits := by
  apply Json.Fits.object
  simp [Json.fits_string]

theorem fits_listed (memory : ListedMemory) : memory.toJson.Fits := by
  apply Json.Fits.object
  simp [Json.fits_string]

theorem fits_depth (depth : Depth) : Json.Fits (.integer depth.value) := by
  have bounded : ∀ value ∈ legalDepths, value < 2 ^ 64 := by decide
  exact Json.fits_natCast (bounded _ depth.legal)

end Records

namespace Response

variable {response : Response}

theorem name?_done (outcome : Outcome) : (done outcome).name? = some outcome.operation.name := by
  cases outcome <;> rfl

theorem name?_checked (command : Command) :
    (checked command).name? = some command.operation.name := by
  cases command <;> rfl

theorem kind?_failed (error : CommandError) : (failed error).kind? = some error.kind := by
  cases error <;> rfl

theorem nodup_names (response : Response) :
    (("success" :: response.fields.map Prod.fst)).Nodup := by
  cases response with
  | done outcome => cases outcome <;> simp [fields, Outcome.fields]
  | checked command => simp [fields]
  | failed error =>
      cases error with
      | constraintViolation operation violation =>
          cases violation <;> simp [fields, CommandError.fields, Violation.fields]
      | _ => simp [fields, CommandError.fields]

theorem fits_arguments (command : Command) : ∀ member ∈ command.arguments, member.2.Fits := by
  cases command with
  | list symbol => cases symbol <;> simp [Command.arguments, Json.optionalMember, Json.fits_string]
  | _ => simp [Command.arguments, Json.fits_string, fits_depth]

theorem fits_outcome {outcome : Outcome} (fits : (Response.done outcome).Fits) :
    ∀ member ∈ outcome.details, member.2.Fits := by
  have commitsFit (commits : List CommitSummary) : (Outcome.commitsJson commits).Fits := by
    apply Json.Fits.array
    simp [fits_commit]
  cases outcome with
  | search query depth hits commits =>
      have hitsFit : Json.Fits (.array (hits.map SearchHit.toJson)) := by
        apply Json.Fits.array
        intro item among
        rcases List.mem_map.mp among with ⟨hit, isHit, rfl⟩
        exact fits_hit (fits hit isHit)
      simp [Outcome.details, Json.fits_string, fits_depth, hitsFit, commitsFit]
  | history path depth commits =>
      simp [Outcome.details, Json.fits_string, fits_depth, commitsFit]
  | view reference path content =>
      cases path <;> simp [Outcome.details, Json.optionalMember, Json.fits_string]
  | list symbol memories =>
      have memoriesFit : Json.Fits (.array (memories.map ListedMemory.toJson)) := by
        apply Json.Fits.array
        simp [fits_listed]
      cases symbol <;> simp [Outcome.details, Json.optionalMember, Json.fits_string, memoriesFit]
  | _ => simp [Outcome.details, Json.fits_string]

theorem fits_error {error : CommandError} (fits : (Response.failed error).Fits) :
    ∀ member ∈ error.details, member.2.Fits := by
  cases error with
  | parse problem position =>
      cases position with
      | none => simp [CommandError.details, Json.optionalMember, Json.fits_string]
      | some index =>
          simp [CommandError.details, Json.optionalMember, Json.fits_string,
            Json.fits_natCast (fits index rfl)]
  | unknownOperation name =>
      have namesFit : Json.Fits (.array (Operation.names.map .string)) := by
        apply Json.Fits.array
        simp [Json.fits_string]
      simp [CommandError.details, Json.fits_string, namesFit]
  | constraintViolation operation violation =>
      have valueFits : violation.value.Fits := by
        cases violation with
        | symbol given =>
            cases given with
            | number given => exact Json.fits_number fits
            | _ => exact Json.fits_string _
        | _ => exact Json.fits_string _
      simp [CommandError.details, Json.fits_string, valueFits]
  | invalidArgument operation problem =>
      cases problem with
      | depthNotLegal given =>
          simp [CommandError.details, ArgumentProblem.reported?, Json.optionalMember,
            Json.fits_string, Json.fits_number fits]
      | _ =>
          simp [CommandError.details, ArgumentProblem.reported?, Json.optionalMember,
            Json.fits_string]
  | git command complaint suggestion =>
      cases suggestion <;> simp [CommandError.details, Json.optionalMember, Json.fits_string]
  | memory text suggestion =>
      cases suggestion <;> simp [CommandError.details, Json.optionalMember, Json.fits_string]

theorem fits_toJson (fits : response.Fits) : response.toJson.Fits := by
  have bodyFits : ∀ member ∈ response.body, member.2.Fits := by
    cases response with
    | done outcome =>
        exact List.forall_mem_cons.mpr ⟨Json.fits_string _, fits_outcome fits⟩
    | checked command =>
        simp [body, Command.members, Json.fits_string, Json.Fits.object (fits_arguments command)]
    | failed error =>
        exact List.forall_mem_cons.mpr ⟨Json.fits_string _, fits_error fits⟩
  exact .object (List.forall_mem_cons.mpr ⟨.scalar trivial, bodyFits⟩)

theorem asPrinted_arguments (command : Command) :
    Json.asPrintedMembers command.arguments = Json.present command.fields := by
  cases command with
  | create symbol slug content =>
      rw [Command.fields, ← Vocabulary.glyph_eq]
      rfl
  | list symbol =>
      simp only [Command.fields, ← Vocabulary.glyph_eq]
      cases symbol <;> rfl
  | _ => rfl

theorem asPrinted_outcome (outcome : Outcome) :
    Json.asPrintedMembers outcome.details = Json.present outcome.fields := by
  have hits := Json.asPrintedItems_map asPrinted_hit
  have commits := Json.asPrintedItems_map asPrinted_commit
  have memories := Json.asPrintedItems_map asPrinted_listed
  cases outcome with
  | create path symbol slug commit =>
      rw [Outcome.fields, ← Vocabulary.glyph_eq]
      rfl
  | search query depth found log =>
      simp [Outcome.details, Outcome.commitsJson, Json.asPrintedMembers, Json.asPrinted, hits,
        commits]
      rfl
  | history path depth log =>
      simp [Outcome.details, Outcome.commitsJson, Json.asPrintedMembers, Json.asPrinted, commits]
      rfl
  | list symbol listed =>
      simp only [Outcome.fields, ← Vocabulary.glyph_eq]
      cases symbol <;>
        simp [Outcome.details, Json.optionalMember, Json.asPrintedMembers, Json.asPrinted,
          memories] <;>
        rfl
  | view reference path content => cases path <;> rfl
  | _ => rfl

theorem message_eq_wording (problem : SyntaxProblem) : problem.message = problem.wording := by
  cases problem <;> rfl

theorem message_eq_wording_of_operation (operation : Operation) (problem : ArgumentProblem) :
    problem.message operation = problem.wording operation := by
  have depths : " depth must be one of " ++ Depth.legalList =
      " depth must be one of 1, 2, 3, 5, 8, 13, 21, 34" := by decide
  cases problem with
  | depthNotLegal given =>
      rw [ArgumentProblem.message, ArgumentProblem.wording, String.append_assoc, depths,
        Vocabulary.name_eq]
  | _ => rw [ArgumentProblem.message, ArgumentProblem.wording, Vocabulary.name_eq]

theorem given?_eq (problem : ArgumentProblem) :
    problem.given? = problem.reported?.map Json.asPrinted := by
  cases problem with
  | depthNotLegal given =>
      rw [ArgumentProblem.given?, ← Json.asPrinted_number]
      rfl
  | _ => rfl

theorem fields_violation (violation : Violation) :
    violation.fields = [("field", some (.string violation.field)),
      ("value", some violation.value.asPrinted),
      ("expected", some (.string violation.expected))] := by
  cases violation with
  | symbol given =>
      rw [Violation.fields, ← Json.asPrinted_literal]
      rfl
  | slug given => rfl
  | content words => rfl

theorem asPrinted_error (error : CommandError) :
    Json.asPrintedMembers error.details = Json.present error.fields := by
  cases error with
  | parse problem position =>
      rw [CommandError.fields, ← message_eq_wording]
      cases position <;> rfl
  | unknownOperation name =>
      rw [CommandError.fields, ← Vocabulary.names_eq]
      rfl
  | constraintViolation operation violation =>
      rw [CommandError.fields, fields_violation, ← Vocabulary.sample_eq_suggestion]
      rfl
  | invalidArgument operation problem =>
      rw [CommandError.fields, given?_eq, ← Vocabulary.sample_eq_suggestion,
        ← message_eq_wording_of_operation]
      cases problem <;> rfl
  | git command complaint suggestion => cases suggestion <;> rfl
  | memory text suggestion => cases suggestion <;> rfl

theorem asPrinted_toJson (response : Response) : response.toJson.asPrinted =
    .object (("success", .boolean response.success) :: Json.present response.fields) := by
  have bodyPrinted : Json.asPrintedMembers response.body = Json.present response.fields := by
    cases response with
    | done outcome =>
        rw [fields, name?_done, body, Outcome.members, Json.asPrintedMembers, asPrinted_outcome]
        rfl
    | checked command =>
        rw [fields, name?_checked, body, Command.members, Json.asPrintedMembers,
          Json.asPrintedMembers, Json.asPrinted, asPrinted_arguments]
        rfl
    | failed error =>
        rw [fields, kind?_failed, body, CommandError.members, Json.asPrintedMembers,
          asPrinted_error]
        rfl
  rw [toJson, Json.asPrinted, Json.asPrintedMembers, bodyPrinted]
  rfl

theorem hasDistinctNames_command (command : Command) :
    Json.HasDistinctNames (.object (Json.present command.fields)) := by
  have names : (command.fields.map Prod.fst).Nodup := by
    cases command <;> simp [Command.fields]
  refine Json.hasDistinctNames_record (names.sublist (Json.sublist_names_present _)) ?_
  cases command with
  | list symbol => cases symbol <;> simp [Command.fields, Json.present, Json.optionalMember]
  | _ => simp [Command.fields, Json.present, Json.optionalMember]

theorem hasDistinctNames_outcome (outcome : Outcome) :
    ∀ field ∈ outcome.fields, ∀ value ∈ field.2, value.HasDistinctNames := by
  have hits := Json.hasDistinctNames_map hasDistinctNames_hit
  have commits := Json.hasDistinctNames_map hasDistinctNames_commit
  have memories := Json.hasDistinctNames_map hasDistinctNames_listed
  cases outcome <;>
    simp [Outcome.fields, Json.hasDistinctNames_string, Json.hasDistinctNames_integer, hits,
      commits, memories]

theorem hasDistinctNames_error (error : CommandError) :
    ∀ field ∈ error.fields, ∀ value ∈ field.2, value.HasDistinctNames := by
  have names := Json.hasDistinctNames_map Json.hasDistinctNames_string Vocabulary.names
  cases error with
  | parse problem position =>
      cases position <;>
        simp [CommandError.fields, Json.hasDistinctNames_string, Json.hasDistinctNames_integer]
  | constraintViolation operation violation =>
      cases violation <;>
        simp [CommandError.fields, Violation.fields, Json.hasDistinctNames_string,
          Json.hasDistinctNames_literal]
  | invalidArgument operation problem =>
      cases problem <;>
        simp [CommandError.fields, ArgumentProblem.given?, Json.hasDistinctNames_string,
          Json.hasDistinctNames_number]
  | _ => simp [CommandError.fields, Json.hasDistinctNames_string, names]

theorem hasDistinctNames_fields (response : Response) :
    ∀ field ∈ response.fields, ∀ value ∈ field.2, value.HasDistinctNames := by
  cases response with
  | done outcome =>
      simpa [fields, Json.hasDistinctNames_string] using hasDistinctNames_outcome outcome
  | checked command =>
      simp [fields, Json.hasDistinctNames_string, hasDistinctNames_command]
  | failed error =>
      simpa [fields, Json.hasDistinctNames_string] using hasDistinctNames_error error

/-- What is printed of a response reads back, in both layouts, as the same object without repeated
names. It tells first whether the command succeeded, which outcomes and checked commands do. It
names the operation of a success and the kind of an error; every field is found under its name with
what it holds, and no other member is found. -/
theorem reads_back_in_both_layouts (response : Response) (fits : response.Fits) :
    ∃ members : List (String × Json),
      (∀ layout, Json.read? (response.render layout) = some (.object members)) ∧
      (Json.object members).HasDistinctNames ∧
      (members.head? = some ("success", .boolean true) ↔
        (∃ outcome, response = .done outcome) ∨ ∃ command, response = .checked command) ∧
      (members.head? = some ("success", .boolean false) ↔ ∃ error, response = .failed error) ∧
      members.lookup "op" = response.name?.map .string ∧
      members.lookup "error" = response.kind?.map .string ∧
      (∀ field ∈ response.fields, members.lookup field.1 = field.2) ∧
      ∀ member ∈ members, member.1 = "success" ∨ (member.1, some member.2) ∈ response.fields := by
  have names := nodup_names response
  rw [List.nodup_cons] at names
  have found : ∀ field ∈ response.fields, List.lookup field.1
      (("success", .boolean response.success) :: Json.present response.fields) = field.2 := by
    intro field among
    have different : field.1 ≠ "success" := by
      intro same
      exact names.1 (List.mem_map.mpr ⟨field, among, same⟩)
    rw [List.lookup_cons, beq_false_of_ne different]
    exact Json.lookup_present names.2 field among
  refine ⟨("success", .boolean response.success) :: Json.present response.fields, ?_, ?_, ?_, ?_,
    ?_, ?_, found, ?_⟩
  · intro layout
    rw [render, Json.read?_render (fits_toJson fits), asPrinted_toJson]
  · refine .object ?_ ?_
    · exact (nodup_names response).sublist ((Json.sublist_names_present _).cons_cons "success")
    · rw [List.forall_mem_cons]
      refine ⟨.atom (by simp) (by simp), ?_⟩
      intro member among
      exact hasDistinctNames_fields response _ (Json.mem_present.mp among) member.2 rfl
  · cases response <;> simp [success]
  · cases response <;> simp [success]
  · exact found _ List.mem_cons_self
  · exact found _ (List.mem_cons_of_mem _ List.mem_cons_self)
  · intro member among
    rcases List.mem_cons.mp among with rfl | among
    · exact .inl rfl
    · exact .inr (Json.mem_present.mp among)

/-- A line, a commit and a memory that were found are read with all their parts, and a refused depth
is reported as the double that was given. -/
theorem reads_back_of_found_and_refused :
    let half := Double.finite false 5629499534213120 (-51)
    let found := Response.done (.search "a" .standard [⟨"memories/goal/x.md", 3, "\t\"a\""⟩]
      [⟨"1f2e3d4", "2026-10-19", "memory: create 🎯 x"⟩])
    let listed := Response.done (.list none [⟨.goal, ⟨"x", by decide⟩, "memories/goal/x.md"⟩])
    let refused := Response.failed (.invalidArgument .search (.depthNotLegal (.double half)))
    (found.Fits ∧ ∃ members : List (String × Json),
      (∀ layout, Json.read? (found.render layout) = some (.object members)) ∧
      members.lookup "op" = some (.string "search") ∧ members.lookup "error" = none ∧
      members.lookup "matches" = some (.array [.object [("path", .string "memories/goal/x.md"),
        ("line", .integer 3), ("text", .string "\t\"a\"")]]) ∧
      members.lookup "commits" = some (.array [.object [("hash", .string "1f2e3d4"),
        ("date", .string "2026-10-19"), ("subject", .string "memory: create 🎯 x")]])) ∧
    (listed.Fits ∧ ∃ members : List (String × Json),
      (∀ layout, Json.read? (listed.render layout) = some (.object members)) ∧
      members.lookup "symbol" = none ∧
      members.lookup "memories" = some (.array [.object [("symbol", .string "🎯"),
        ("slug", .string "x"), ("path", .string "memories/goal/x.md")]])) ∧
    refused.Fits ∧ ∃ members : List (String × Json),
      (∀ layout, Json.read? (refused.render layout) = some (.object members)) ∧
      members.lookup "op" = none ∧ members.lookup "error" = some (.string "invalid-argument") ∧
      members.lookup "value" = some (.double half) ∧
      members.lookup "suggestion" = some (.string "(search \"authentication\" 3)") := by
  intro half found listed refused
  have foundFits : found.Fits := by
    intro hit among
    rw [List.mem_singleton] at among
    subst among
    decide
  have listedFits : listed.Fits := trivial
  have refusedFits : refused.Fits := ⟨by decide, by decide, by decide, .inl (by decide)⟩
  refine ⟨⟨foundFits, ?_⟩, ⟨listedFits, ?_⟩, refusedFits, ?_⟩
  · rcases reads_back_in_both_layouts found foundFits with
      ⟨members, read, -, -, -, operation, error, held, -⟩
    exact ⟨members, read, operation, error,
      held ("matches", _) (by simp [fields, found, Outcome.fields]; rfl),
      held ("commits", _) (by simp [fields, found, Outcome.fields]; rfl)⟩
  · rcases reads_back_in_both_layouts listed listedFits with ⟨members, read, -, -, -, -, -, held, -⟩
    exact ⟨members, read, held ("symbol", _) (by simp [fields, listed, Outcome.fields]),
      held ("memories", _) (by simp [fields, listed, Outcome.fields]; rfl)⟩
  · rcases reads_back_in_both_layouts refused refusedFits with
      ⟨members, read, -, -, -, operation, error, held, -⟩
    exact ⟨members, read, operation, error,
      held ("value", _) (by simp [fields, refused, CommandError.fields]; rfl),
      held ("suggestion", _) (by simp [fields, refused, CommandError.fields]; rfl)⟩

end Response

end MemoryKeeper

import MemoryKeeper.Command.Checks
import Mathlib.Data.List.Basic

/-!
# Reading expressions

Reading succeeds on a single literal, and on a call whose only closing parenthesis
is its last token. Whatever else is read is reported as an error of the syntax.
-/

namespace MemoryKeeper

section Results

variable {Failure Value Other : Type} {result : Except Failure Value}
  {next : Value → Except Failure Other}

theorem Except.bind_eq_ok_iff {other : Other} :
    result >>= next = .ok other ↔ ∃ value, result = .ok value ∧ next value = .ok other := by
  cases result with
  | error failure => simp [bind, Except.bind]
  | ok value => simp [bind, Except.bind]

theorem Except.bind_eq_error_iff {failure : Failure} :
    result >>= next = .error failure ↔
      result = .error failure ∨ ∃ value, result = .ok value ∧ next value = .error failure := by
  cases result with
  | error failure => simp [bind, Except.bind]
  | ok value => simp [bind, Except.bind]

end Results

/-- The literal that a token stands for; parentheses stand for none. -/
def Token.literal? : Token → Option Literal
  | .openParen => none
  | .closeParen => none
  | .string text => some (.string text)
  | .number text => (Number.read? text).map .number
  | .word text => some (.word text)
  | .glyph text => some (.glyph text)

namespace Expression

variable {index : Nat} {token : Token} {tokens after : List Token} {value : Literal}
  {arguments : List Literal} {expression : Expression} {error : CommandError} {operation : String}

theorem readLiteral_eq_ok_iff :
    readLiteral index token = .ok value ↔ token.literal? = some value := by
  cases token with
  | number text =>
      rw [readLiteral, Token.literal?]
      rcases Number.read? text with _ | number <;> simp
  | _ => simp [readLiteral, Token.literal?]

theorem exists_parse_of_readLiteral (refused : readLiteral index token = .error error) :
    ∃ problem, error = .parse problem (some index) := by
  cases token with
  | number text =>
      rw [readLiteral] at refused
      split at refused
      · cases refused
      · cases refused
        exact ⟨_, rfl⟩
  | openParen =>
      cases refused
      exact ⟨_, rfl⟩
  | closeParen =>
      cases refused
      exact ⟨_, rfl⟩
  | _ => cases refused

theorem readArguments_cons (notClose : token ≠ .closeParen) :
    readArguments index (token :: tokens) =
      (readLiteral index token >>= fun argument =>
        readArguments (index + 1) tokens >>= fun read => .ok (argument :: read.1, read.2)) := by
  cases token with
  | closeParen => contradiction
  | _ =>
      rw [readArguments]
      · rfl
      · simp

/-- Arguments are read exactly up to the first closing parenthesis, and each stands for what its
token does. -/
theorem readArguments_eq_ok_iff :
    readArguments index tokens = .ok (arguments, after) ↔
      ∃ front, tokens = front ++ .closeParen :: after ∧
        front.map Token.literal? = arguments.map some := by
  induction tokens generalizing index arguments with
  | nil => simp [readArguments]
  | cons token tokens ih =>
      by_cases isClose : token = .closeParen
      · subst isClose
        constructor
        · intro read
          cases read
          exact ⟨[], rfl, rfl⟩
        · rintro ⟨_ | ⟨token, front⟩, whole, literals⟩
          · cases whole
            rw [List.map_nil, eq_comm, List.map_eq_nil_iff] at literals
            rw [literals]
            rfl
          · rw [List.cons_append, List.cons.injEq] at whole
            rw [← whole.1, List.map_cons, eq_comm, List.map_eq_cons_iff] at literals
            rcases literals with ⟨value, values, -, impossible, -⟩
            cases impossible
      · rw [readArguments_cons isClose]
        simp only [Except.bind_eq_ok_iff, Except.ok.injEq, Prod.mk.injEq]
        constructor
        · rintro ⟨value, first, ⟨values, rest⟩, others, rfl, rfl⟩
          rcases ih.mp others with ⟨front, rfl, literals⟩
          refine ⟨token :: front, rfl, ?_⟩
          rw [List.map_cons, literals, readLiteral_eq_ok_iff.mp first, List.map_cons]
        · rintro ⟨_ | ⟨token, front⟩, whole, literals⟩
          · cases whole
            contradiction
          · rw [List.cons_append, List.cons.injEq] at whole
            rcases whole with ⟨rfl, rfl⟩
            rw [List.map_cons, eq_comm, List.map_eq_cons_iff] at literals
            rcases literals with ⟨value, values, rfl, first, others⟩
            exact ⟨value, readLiteral_eq_ok_iff.mpr first.symm, (values, after),
              ih.mpr ⟨front, rfl, others.symm⟩, rfl, rfl⟩

theorem exists_parse_of_readArguments (refused : readArguments index tokens = .error error) :
    ∃ problem position, error = .parse problem (some position) := by
  induction tokens generalizing index with
  | nil =>
      cases refused
      exact ⟨_, _, rfl⟩
  | cons token tokens ih =>
      by_cases isClose : token = .closeParen
      · subst isClose
        cases refused
      · simp only [readArguments_cons isClose, Except.bind_eq_error_iff, reduceCtorEq, and_false,
          exists_false, or_false] at refused
        rcases refused with first | ⟨value, -, others⟩
        · rcases exists_parse_of_readLiteral first with ⟨problem, rfl⟩
          exact ⟨problem, index, rfl⟩
        · exact ih others

theorem expectEnd_eq_ok_iff : expectEnd index tokens = .ok () ↔ tokens = [] := by
  cases tokens <;> simp [expectEnd]

theorem exists_parse_of_expectEnd (refused : expectEnd index tokens = .error error) :
    ∃ problem position, error = .parse problem (some position) := by
  cases tokens with
  | nil => cases refused
  | cons token tokens =>
      cases refused
      exact ⟨_, _, rfl⟩

theorem ofTokens_call (rest : List Token) :
    ofTokens (.openParen :: .word operation :: rest) =
      (readArguments 2 rest >>= fun read =>
        expectEnd (rest.length + 2 - read.2.length) read.2 >>= fun _ =>
          .ok (.call operation read.1)) :=
  rfl

theorem ofTokens_literal (notOpen : token ≠ .openParen) (rest : List Token) :
    ofTokens (token :: rest) =
      (readLiteral 0 token >>= fun value =>
        expectEnd 1 rest >>= fun _ => .ok (.literal value)) := by
  cases token with
  | openParen => contradiction
  | _ => rfl

/-- What is read is a single literal, or a call that ends with its closing parenthesis. -/
theorem ofTokens_eq_ok_iff :
    ofTokens tokens = .ok expression ↔
      (∃ token value, tokens = [token] ∧ token.literal? = some value ∧
        expression = .literal value) ∨
      ∃ operation front arguments,
        tokens = .openParen :: .word operation :: front ++ [.closeParen] ∧
        front.map Token.literal? = arguments.map some ∧ expression = .call operation arguments := by
  constructor
  · intro read
    unfold ofTokens at read
    split at read
    · cases read
    · next operation rest =>
        simp only [Except.bind_eq_ok_iff] at read
        rcases read with ⟨⟨arguments, after⟩, others, ⟨⟩, ended, made⟩
        cases made
        have finished : after = [] := expectEnd_eq_ok_iff.mp ended
        subst finished
        rcases readArguments_eq_ok_iff.mp others with ⟨front, rfl, literals⟩
        exact .inr ⟨operation, front, arguments, rfl, literals, rfl⟩
    · cases read
    · next token rest _ _ =>
        simp only [Except.bind_eq_ok_iff] at read
        rcases read with ⟨value, first, ⟨⟩, ended, made⟩
        cases made
        rw [expectEnd_eq_ok_iff.mp ended]
        exact .inl ⟨token, value, rfl, readLiteral_eq_ok_iff.mp first, rfl⟩
  · rintro (⟨token, value, rfl, literal, rfl⟩ | ⟨operation, front, arguments, rfl, literals, rfl⟩)
    · have notOpen : token ≠ .openParen := by
        rintro rfl
        cases literal
      rw [ofTokens_literal notOpen, readLiteral_eq_ok_iff.mpr literal]
      rfl
    · rw [List.cons_append, List.cons_append, ofTokens_call,
        readArguments_eq_ok_iff.mpr ⟨front, rfl, literals⟩]
      rfl

theorem exists_parse_of_ofTokens (refused : ofTokens tokens = .error error) :
    ∃ problem position, error = .parse problem (some position) := by
  unfold ofTokens at refused
  split at refused
  · cases refused
    exact ⟨_, _, rfl⟩
  · simp only [Except.bind_eq_error_iff, pure, Except.pure, reduceCtorEq, and_false, exists_false,
      or_false] at refused
    rcases refused with others | ⟨⟨arguments, after⟩, -, ended⟩
    · exact exists_parse_of_readArguments others
    · exact exists_parse_of_expectEnd ended
  · cases refused
    exact ⟨_, _, rfl⟩
  · simp only [Except.bind_eq_error_iff, pure, Except.pure, reduceCtorEq, and_false, exists_false,
      or_false] at refused
    rcases refused with first | ⟨value, -, ended⟩
    · rcases exists_parse_of_readLiteral first with ⟨problem, rfl⟩
      exact ⟨problem, 0, rfl⟩
    · exact exists_parse_of_expectEnd ended

end Expression

end MemoryKeeper

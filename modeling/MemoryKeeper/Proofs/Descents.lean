import MemoryKeeper.Proofs.Expressions

/-!
# Reading by descent

The grammar of commands can be read by a cursor that looks at the token in its
place, says what is wrong there or moves on by one. Whoever reads a literal has
looked at its token before, so of the ways in which a literal can fail only a
malformed number ever happens. For the rest a descent says what reading says: the
same expression, or the same problem at the same position.
-/

namespace MemoryKeeper

namespace Descent

/-- What a cursor can complain of. The last two would be complaints of a literal that is read where
none can be. -/
inductive Complaint where
  | grammar (problem : SyntaxProblem)
  | unexpected (token : Token)
  | exhausted
  deriving DecidableEq, Repr

/-- What is read from a position on, or a complaint and the position that it is about. -/
abbrev Answer (Value : Type) : Type :=
  Except (Complaint × Nat) Value

/-- The literal at a position. -/
def literalAt (tokens : List Token) (position : Nat) : Answer Literal :=
  match tokens[position]? with
  | some (.string text) => .ok (.string text)
  | some (.number text) =>
    match Number.read? text with
    | some value => .ok (.number value)
    | none => .error (.grammar (.invalidNumber text), position)
  | some (.glyph text) => .ok (.glyph text)
  | some (.word text) => .ok (.word text)
  | some other => .error (.unexpected other, position)
  | none => .error (.exhausted, position)

/-- The arguments from a position to the closing parenthesis, and the position behind it. -/
def argumentsAt (tokens : List Token) (position : Nat) : Answer (List Literal × Nat) :=
  match present : tokens[position]? with
  | none => .error (.grammar .closeMissing, position)
  | some .closeParen => .ok ([], position + 1)
  | some .openParen => .error (.grammar .nested, position)
  | some _ => do
    let argument ← literalAt tokens position
    let (arguments, after) ← argumentsAt tokens (position + 1)
    return (argument :: arguments, after)
termination_by tokens.length - position
decreasing_by
  have inside := (List.getElem?_eq_some_iff.mp present).1
  omega

/-- The call whose opening parenthesis is at a position. -/
def callAt (tokens : List Token) (position : Nat) : Answer (Expression × Nat) :=
  match tokens[position + 1]? with
  | some (.word operation) => do
    let (arguments, after) ← argumentsAt tokens (position + 2)
    return (.call operation arguments, after)
  | _ => .error (.grammar .operationExpected, position + 1)

/-- The expression at a position, and the position behind it. -/
def expressionAt (tokens : List Token) (position : Nat) : Answer (Expression × Nat) :=
  match tokens[position]? with
  | none => .error (.grammar .unexpectedEnd, position)
  | some .openParen => callAt tokens position
  | some .closeParen => .error (.grammar .unexpectedClose, position)
  | some _ => do
    let value ← literalAt tokens position
    return (.literal value, position + 1)

/-- The expression that all tokens spell. -/
def descend (tokens : List Token) : Answer Expression := do
  let (expression, after) ← expressionAt tokens 0
  if after < tokens.length then .error (.grammar .trailing, after) else return expression

/-- An answer of reading and one of a descent say the same: corresponding values, or one problem at
one position. -/
inductive Agree {Value Other : Type} (Same : Value → Other → Prop) :
    Except CommandError Value → Answer Other → Prop where
  | ok {value : Value} {other : Other} (same : Same value other) : Agree Same (.ok value) (.ok other)
  | error (problem : SyntaxProblem) (position : Nat) :
      Agree Same (.error (.parse problem (some position))) (.error (.grammar problem, position))

theorem Agree.bind {Value Other Next NextOther : Type} {Same : Value → Other → Prop}
    {SameNext : Next → NextOther → Prop} {read : Except CommandError Value} {found : Answer Other}
    {next : Value → Except CommandError Next} {nextFound : Other → Answer NextOther}
    (agree : Agree Same read found)
    (further : ∀ value other, Same value other → Agree SameNext (next value) (nextFound other)) :
    Agree SameNext (read >>= next) (found >>= nextFound) := by
  cases agree with
  | ok same => exact further _ _ same
  | error problem position => exact .error problem position

variable {tokens rest : List Token} {token : Token} {position : Nat}

theorem getElem?_of_drop (remaining : tokens.drop position = token :: rest) :
    tokens[position]? = some token ∧ tokens.drop (position + 1) = rest := by
  constructor
  · rw [← List.head?_drop, remaining, List.head?_cons]
  · rw [← List.tail_drop, remaining, List.tail_cons]

/-- A literal is read where no parenthesis is. -/
theorem agree_literal (present : tokens[position]? = some token) (notOpen : token ≠ .openParen)
    (notClose : token ≠ .closeParen) :
    Agree Eq (Expression.readLiteral position token) (literalAt tokens position) := by
  rw [literalAt, present]
  cases token with
  | openParen => contradiction
  | closeParen => contradiction
  | number text =>
      simp only [Expression.readLiteral]
      cases Number.read? text with
      | none => exact .error _ _
      | some value => exact .ok rfl
  | _ => exact .ok rfl

theorem argumentsAt_of_none (ended : tokens[position]? = none) :
    argumentsAt tokens position = .error (.grammar .closeMissing, position) := by
  unfold argumentsAt
  split <;> simp_all

theorem argumentsAt_of_close (present : tokens[position]? = some .closeParen) :
    argumentsAt tokens position = .ok ([], position + 1) := by
  unfold argumentsAt
  split <;> simp_all

theorem argumentsAt_of_open (present : tokens[position]? = some .openParen) :
    argumentsAt tokens position = .error (.grammar .nested, position) := by
  unfold argumentsAt
  split <;> simp_all

theorem argumentsAt_of_literal (present : tokens[position]? = some token)
    (notOpen : token ≠ .openParen) (notClose : token ≠ .closeParen) :
    argumentsAt tokens position =
      (literalAt tokens position >>= fun argument =>
        argumentsAt tokens (position + 1) >>= fun found => .ok (argument :: found.1, found.2)) := by
  rw [argumentsAt]
  split
  · simp_all
  · simp_all
  · simp_all
  · rfl

theorem agree_arguments (remaining : tokens.drop position = rest) :
    Agree (fun read found => read.1 = found.1 ∧ tokens.drop found.2 = read.2)
      (Expression.readArguments position rest) (argumentsAt tokens position) := by
  induction rest generalizing position with
  | nil =>
      have ended : tokens[position]? = none := by
        rw [← List.head?_drop, remaining, List.head?_nil]
      rw [argumentsAt_of_none ended]
      exact .error _ _
  | cons token rest ih =>
      rcases getElem?_of_drop remaining with ⟨present, further⟩
      by_cases isClose : token = .closeParen
      · subst isClose
        rw [argumentsAt_of_close present]
        exact .ok ⟨rfl, further⟩
      · by_cases isOpen : token = .openParen
        · subst isOpen
          rw [argumentsAt_of_open present]
          exact .error _ _
        · rw [Expression.readArguments_cons isClose, argumentsAt_of_literal present isOpen isClose]
          apply (agree_literal present isOpen isClose).bind
          rintro argument _ rfl
          apply (ih further).bind
          rintro ⟨arguments, after⟩ ⟨_, behind⟩ ⟨rfl, same⟩
          exact .ok ⟨rfl, same⟩

theorem agree_end {index : Nat} (remaining : tokens.drop position = rest)
    (same : rest ≠ [] → index = position) (expression : Expression) :
    Agree Eq (Expression.expectEnd index rest >>= fun _ => .ok expression)
      (if position < tokens.length then .error (.grammar .trailing, position)
        else .ok expression) := by
  cases rest with
  | nil =>
      rw [if_neg (by simpa using remaining)]
      exact .ok rfl
  | cons token rest =>
      have inside := (List.getElem?_eq_some_iff.mp (getElem?_of_drop remaining).1).1
      rw [if_pos inside, same (by simp)]
      exact .error _ _

theorem descend_call (operation : String) (rest : List Token) :
    let tokens := .openParen :: .word operation :: rest
    descend tokens = (argumentsAt tokens 2 >>= fun found =>
      if found.2 < tokens.length then .error (.grammar .trailing, found.2)
      else .ok (.call operation found.1)) := by
  intro tokens
  have called : expressionAt tokens 0 =
      (argumentsAt tokens 2 >>= fun found => .ok (.call operation found.1, found.2)) := rfl
  rw [descend, called]
  cases argumentsAt tokens 2 <;> rfl

theorem descend_literal (notOpen : token ≠ .openParen) (notClose : token ≠ .closeParen)
    (rest : List Token) :
    descend (token :: rest) = (literalAt (token :: rest) 0 >>= fun value =>
      if 1 < (token :: rest).length then .error (.grammar .trailing, 1)
      else .ok (.literal value)) := by
  have alone : expressionAt (token :: rest) 0 =
      (literalAt (token :: rest) 0 >>= fun value => .ok (.literal value, 1)) := by
    cases token with
    | openParen => contradiction
    | closeParen => contradiction
    | _ => rfl
  rw [descend, alone]
  cases literalAt (token :: rest) 0 <;> rfl

/-- Reading and a descent come to the same answer. -/
theorem agree_descend (tokens : List Token) :
    Agree Eq (Expression.ofTokens tokens) (descend tokens) := by
  rcases tokens with _ | ⟨token, rest⟩
  · exact .error _ _
  · by_cases isOpen : token = .openParen
    · subst isOpen
      rcases rest with _ | ⟨token, rest⟩
      · exact .error _ _
      · cases token with
        | word operation =>
            have behindName : List.drop 2 (.openParen :: .word operation :: rest) = rest := rfl
            rw [Expression.ofTokens_call, descend_call]
            apply (agree_arguments behindName).bind
            rintro ⟨arguments, after⟩ ⟨_, behind⟩ ⟨rfl, remaining⟩
            apply agree_end remaining
            intro more
            have length := congrArg List.length remaining
            have positive := List.length_pos_of_ne_nil more
            simp only [List.length_drop, List.length_cons] at length positive
            simp only
            omega
        | _ => exact .error _ _
    · by_cases isClose : token = .closeParen
      · subst isClose
        exact .error _ _
      · have behind : List.drop 1 (token :: rest) = rest := rfl
        rw [Expression.ofTokens_literal isOpen, descend_literal isOpen isClose]
        apply (agree_literal rfl isOpen isClose).bind
        rintro value _ rfl
        exact agree_end behind (fun _ => rfl) _

/-- A descent complains of what the grammar knows only: at a literal of a malformed number, and
never of its being no literal or of the end of the tokens. -/
theorem grammar_of_descend {complaint : Complaint}
    (refused : descend tokens = .error (complaint, position)) :
    ∃ problem, complaint = .grammar problem ∧
      Expression.ofTokens tokens = .error (.parse problem (some position)) := by
  have agree := agree_descend tokens
  rw [refused] at agree
  generalize Expression.ofTokens tokens = read at agree ⊢
  cases agree with
  | error problem => exact ⟨problem, rfl, rfl⟩

theorem descend_eq_ok_iff {expression : Expression} :
    descend tokens = .ok expression ↔ Expression.ofTokens tokens = .ok expression := by
  have agree := agree_descend tokens
  generalize Expression.ofTokens tokens = read at agree
  generalize descend tokens = found at agree
  cases agree with
  | ok same => simp [same]
  | error problem position => simp

end Descent

end MemoryKeeper

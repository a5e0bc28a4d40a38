import MemoryKeeper.Proofs.Descents

/-!
# Positions of syntax errors

Tokens are viable if more tokens could make an expression of them. An error of the
syntax points behind the longest beginning that is viable: at the first token that
no expression can have in its place, or at the end of tokens that are viable as a
whole and too few.
-/

namespace MemoryKeeper.Expression

/-- Whether tokens are the beginning of those of some expression. -/
def IsViable (tokens : List Token) : Prop :=
  ∃ more expression, ofTokens (tokens ++ more) = .ok expression

/-- The wordings of the problems that tokens can have at their end. -/
def endingMessages : List String :=
  ["Missing closing paren", "Unexpected end of input", "Expected operation name after ("]

/-- What a problem at a position says of tokens: they end there too early, or a token stands there
that rules them out. -/
inductive Offends : List Token → SyntaxProblem → Nat → Prop where
  | ending {tokens : List Token} {problem : SyntaxProblem} (viable : IsViable tokens)
      (wording : problem.message ∈ endingMessages) : Offends tokens problem tokens.length
  | token {front : List Token} {token : Token} {rest : List Token} {problem : SyntaxProblem}
      (viable : IsViable front) (ruledOut : ¬IsViable (front ++ [token])) :
      Offends (front ++ token :: rest) problem front.length

variable {index : Nat} {token extra : Token} {tokens front rest more : List Token}
  {arguments : List Literal} {expression : Expression} {error : CommandError} {operation : String}

theorem isViable_of_ok (read : ofTokens tokens = .ok expression) : IsViable tokens :=
  ⟨[], expression, by rwa [List.append_nil]⟩

/-- A call is viable as long as literals stand between its operation and its end. -/
theorem isViable_call (literals : front.map Token.literal? = arguments.map some) :
    IsViable (.openParen :: .word operation :: front) :=
  ⟨[.closeParen], .call operation arguments,
    ofTokens_eq_ok_iff.mpr (.inr ⟨operation, front, arguments, rfl, literals, rfl⟩)⟩

theorem isViable_open : IsViable [.openParen] :=
  ⟨[.word "list", .closeParen], .call "list" [], rfl⟩

theorem isViable_nil : IsViable [] :=
  ⟨[.word "list"], .literal (.word "list"), rfl⟩

/-- An expression is a literal or begins as a call does. -/
theorem isViable_cons (viable : IsViable (token :: rest)) :
    (∃ value, token.literal? = some value ∧ rest = []) ∨
      token = .openParen ∧ (rest = [] ∨ ∃ operation others, rest = .word operation :: others) := by
  rcases viable with ⟨more, expression, read⟩
  rcases ofTokens_eq_ok_iff.mp read with
    ⟨other, value, whole, literal, -⟩ | ⟨operation, front, arguments, whole, -, -⟩
  · rw [List.cons_append, List.cons.injEq, List.append_eq_nil_iff] at whole
    exact .inl ⟨value, by rw [whole.1, literal], whole.2.1⟩
  · rw [List.cons_append, List.cons_append, List.cons.injEq] at whole
    refine .inr ⟨whole.1, ?_⟩
    rcases rest with _ | ⟨second, others⟩
    · exact .inl rfl
    · rw [List.cons_append, List.cons_append, List.cons.injEq] at whole
      exact .inr ⟨operation, others, by rw [whole.2.1]⟩

/-- Between a call's operation and its end stand literals only, and its end is the last token. -/
theorem not_isViable_call (notLiteral : extra.literal? = none)
    (beyond : more ≠ [] ∨ extra ≠ .closeParen) :
    ¬IsViable (.openParen :: .word operation :: (front ++ extra :: more)) := by
  rintro ⟨tail, expression, read⟩
  rcases ofTokens_eq_ok_iff.mp read with
    ⟨other, value, whole, -, -⟩ | ⟨operation, literals, arguments, whole, stand, -⟩
  · cases whole
  · have same : front ++ extra :: (more ++ tail) = literals ++ [.closeParen] := by
      simpa using (List.cons.inj (List.cons.inj whole).2).2
    rcases List.eq_nil_or_concat (more ++ tail) with nothing | ⟨inner, last, shape⟩
    · rw [nothing] at same
      have isClose : extra = .closeParen := by
        simpa using (List.append_inj' same rfl).2
      rcases beyond with hasMore | notClose
      · exact hasMore (List.append_eq_nil_iff.mp nothing).1
      · exact notClose isClose
    · rw [shape, List.concat_eq_append, ← List.cons_append, ← List.append_assoc] at same
      have isLiteral : extra.literal? ∈ literals.map Token.literal? := by
        rw [← (List.append_inj' same rfl).1]
        simp
      rw [notLiteral, stand, List.mem_map] at isLiteral
      rcases isLiteral with ⟨value, -, impossible⟩
      cases impossible

theorem literal?_of_readLiteral (refused : readLiteral index token = .error error) :
    token.literal? = none := by
  rw [Option.eq_none_iff_forall_ne_some]
  intro value literal
  rw [readLiteral_eq_ok_iff.mpr literal] at refused
  cases refused

/-- Arguments are refused behind the literals at their beginning. -/
theorem refused_of_readArguments (refused : readArguments index tokens = .error error) :
    ∃ (front : List Token) (arguments : List Literal) (problem : SyntaxProblem),
      front.map Token.literal? = arguments.map some ∧
      error = .parse problem (some (index + front.length)) ∧
      (tokens = front ∧ problem = .closeMissing ∨
        ∃ token rest, tokens = front ++ token :: rest ∧ token.literal? = none ∧
          token ≠ .closeParen) := by
  induction tokens generalizing index with
  | nil =>
      cases refused
      exact ⟨[], [], _, rfl, rfl, .inl ⟨rfl, rfl⟩⟩
  | cons token tokens ih =>
      by_cases isClose : token = .closeParen
      · subst isClose
        cases refused
      · simp only [readArguments_cons isClose, Except.bind_eq_error_iff, reduceCtorEq, and_false,
          exists_false, or_false] at refused
        rcases refused with first | ⟨value, first, others⟩
        · rcases exists_parse_of_readLiteral first with ⟨problem, rfl⟩
          exact ⟨[], [], problem, rfl, rfl,
            .inr ⟨token, tokens, rfl, literal?_of_readLiteral first, isClose⟩⟩
        · rcases ih others with ⟨front, arguments, problem, literals, rfl, place⟩
          refine ⟨token :: front, value :: arguments, problem, ?_, ?_, ?_⟩
          · rw [List.map_cons, List.map_cons, literals, readLiteral_eq_ok_iff.mp first]
          · rw [List.length_cons, Nat.add_assoc, Nat.add_comm 1]
          · rcases place with ⟨rfl, missing⟩ | ⟨offending, rest, rfl, notLiteral, notClose⟩
            · exact .inl ⟨rfl, missing⟩
            · exact .inr ⟨offending, rest, rfl, notLiteral, notClose⟩

theorem offends_of_call
    (refused : ofTokens (.openParen :: .word operation :: rest) = .error error) :
    ∃ problem position, error = .parse problem (some position) ∧
      Offends (.openParen :: .word operation :: rest) problem position := by
  rw [ofTokens_call] at refused
  simp only [Except.bind_eq_error_iff, reduceCtorEq, and_false, exists_false, or_false] at refused
  rcases refused with others | ⟨⟨arguments, after⟩, read, ended⟩
  · rcases refused_of_readArguments others with
      ⟨front, arguments, problem, literals, rfl, place⟩
    have length : 2 + front.length = (.openParen :: .word operation :: front).length := by
      simp only [List.length_cons]
      omega
    have viable : IsViable (.openParen :: .word operation :: front) := isViable_call literals
    refine ⟨problem, _, rfl, ?_⟩
    rw [length]
    rcases place with ⟨rfl, rfl⟩ | ⟨token, rest, rfl, notLiteral, notClose⟩
    · exact .ending viable (by decide)
    · exact .token viable (not_isViable_call notLiteral (.inr notClose))
  -- The call is complete, so whatever follows it is one token too many.
  · rcases readArguments_eq_ok_iff.mp read with ⟨front, rfl, literals⟩
    rcases after with _ | ⟨extra, more⟩
    · cases ended
    · cases ended
      have complete : ofTokens (.openParen :: .word operation :: front ++ [.closeParen]) =
          .ok (.call operation arguments) :=
        ofTokens_eq_ok_iff.mpr (.inr ⟨operation, front, arguments, rfl, literals, rfl⟩)
      have ruledOut : ¬IsViable
          ((.openParen :: .word operation :: front ++ [.closeParen]) ++ [extra]) := by
        have excess : ¬IsViable
            (.openParen :: .word operation :: (front ++ .closeParen :: [extra])) :=
          not_isViable_call rfl (.inl (by simp))
        simpa using excess
      have offends := @Offends.token _ _ more .trailing (isViable_of_ok complete) ruledOut
      refine ⟨.trailing, _, rfl, ?_⟩
      have length : (front ++ Token.closeParen :: extra :: more).length + 2 - (extra :: more).length =
          (Token.openParen :: .word operation :: front ++ [Token.closeParen]).length := by
        simp only [List.length_append, List.length_cons, List.length_nil]
        omega
      rw [length]
      simpa using offends

theorem offends_of_literal (notOpen : token ≠ .openParen)
    (refused : ofTokens (token :: rest) = .error error) :
    ∃ problem position, error = .parse problem (some position) ∧
      Offends (token :: rest) problem position := by
  rw [ofTokens_literal notOpen] at refused
  simp only [Except.bind_eq_error_iff, reduceCtorEq, and_false, exists_false, or_false] at refused
  rcases refused with first | ⟨value, first, ended⟩
  · rcases exists_parse_of_readLiteral first with ⟨problem, rfl⟩
    have ruledOut : ¬IsViable ([] ++ [token]) := by
      intro viable
      rcases isViable_cons viable with ⟨value, literal, -⟩ | ⟨isOpen, -⟩
      · rw [literal?_of_readLiteral first] at literal
        cases literal
      · exact notOpen isOpen
    exact ⟨problem, _, rfl, .token isViable_nil ruledOut⟩
  · rcases rest with _ | ⟨extra, more⟩
    · cases ended
    · cases ended
      have complete : ofTokens [token] = .ok (.literal value) :=
        ofTokens_eq_ok_iff.mpr (.inl ⟨token, value, rfl, readLiteral_eq_ok_iff.mp first, rfl⟩)
      have ruledOut : ¬IsViable ([token] ++ [extra]) := by
        intro viable
        rcases isViable_cons viable with ⟨value, -, nothing⟩ | ⟨isOpen, -⟩
        · cases nothing
        · exact notOpen isOpen
      exact ⟨.trailing, _, rfl, .token (isViable_of_ok complete) ruledOut⟩

/-- Tokens that are refused offend where the error says. -/
theorem offends_of_refused (refused : ofTokens tokens = .error error) :
    ∃ problem position, error = .parse problem (some position) ∧
      Offends tokens problem position := by
  rcases tokens with _ | ⟨token, rest⟩
  · cases refused
    exact ⟨_, _, rfl, .ending isViable_nil (by decide)⟩
  · by_cases isOpen : token = .openParen
    · subst isOpen
      rcases rest with _ | ⟨token, rest⟩
      · cases refused
        exact ⟨_, _, rfl, .ending isViable_open (by decide)⟩
      · by_cases isWord : ∃ operation, token = .word operation
        · rcases isWord with ⟨operation, rfl⟩
          exact offends_of_call refused
        · have ruledOut : ¬IsViable ([.openParen] ++ [token]) := by
            intro viable
            rcases isViable_cons viable with ⟨value, -, nothing⟩ | ⟨-, nothing | ⟨operation, _, same⟩⟩
            · cases nothing
            · cases nothing
            · exact isWord ⟨operation, (List.cons.inj same).1⟩
          have expected : error = .parse .operationExpected (some 1) := by
            cases token with
            | word operation => exact absurd ⟨operation, rfl⟩ isWord
            | _ =>
                cases refused
                rfl
          exact ⟨_, _, expected, .token isViable_open ruledOut⟩
    · exact offends_of_literal isOpen refused

/-- Where the position of an offence lies in the tokens. -/
theorem Offends.spec {problem : SyntaxProblem} {position : Nat}
    (offends : Offends tokens problem position) :
    position ≤ tokens.length ∧ IsViable (tokens.take position) ∧
      (position = tokens.length ∨ ¬IsViable (tokens.take (position + 1))) ∧
      (position = tokens.length → problem.message ∈ endingMessages) := by
  cases offends with
  | ending viable wording =>
      exact ⟨Nat.le_refl _, by rwa [List.take_length], .inl rfl, fun _ => wording⟩
  | @token front token rest _ viable ruledOut =>
      refine ⟨by simp, by simpa using viable, .inr ?_, ?_⟩
      · have split : front ++ token :: rest = (front ++ [token]) ++ rest := by simp
        rwa [split, List.take_left' (by simp)]
      · intro atEnd
        simp at atEnd

/-- An error of the syntax points behind the longest viable beginning of the tokens. If that is all
of them it says what is missing; and what it says of a literal is never anything but that its number
is malformed. -/
theorem points_behind_longest_viable_beginning (tokens : List Token) :
    (∀ error, ofTokens tokens = .error error →
      ∃ problem position, error = .parse problem (some position) ∧ error.kind = "parse-error" ∧
        position ≤ tokens.length ∧ IsViable (tokens.take position) ∧
        (position = tokens.length ∨ ¬IsViable (tokens.take (position + 1))) ∧
        (position = tokens.length → problem.message ∈ ["Missing closing paren",
          "Unexpected end of input", "Expected operation name after ("])) ∧
    (∀ complaint position, Descent.descend tokens = .error (complaint, position) →
      ∃ problem, complaint = .grammar problem ∧
        ofTokens tokens = .error (.parse problem (some position))) ∧
    ∀ expression, Descent.descend tokens = .ok expression ↔ ofTokens tokens = .ok expression := by
  refine ⟨?_, fun _ _ => Descent.grammar_of_descend, fun _ => Descent.descend_eq_ok_iff⟩
  intro error refused
  rcases offends_of_refused refused with ⟨problem, position, rfl, offends⟩
  exact ⟨problem, position, rfl, rfl, offends.spec⟩

/-- A call inside a call is refused at its opening parenthesis. -/
theorem points_behind_longest_viable_beginning_of_nested :
    let tokens := [Token.openParen, .word "view", .string "a", .openParen, .word "list"]
    ofTokens tokens = .error (.parse .nested (some 3)) ∧
      IsViable (tokens.take 3) ∧ ¬IsViable (tokens.take 4) := by
  intro tokens
  have refused : ofTokens tokens = .error (.parse .nested (some 3)) := rfl
  rcases (points_behind_longest_viable_beginning tokens).1 _ refused with
    ⟨problem, position, same, -, -, viable, place, -⟩
  cases same
  exact ⟨refused, viable, place.resolve_left (by decide)⟩

end MemoryKeeper.Expression

import MemoryKeeper.Execution.Session
import MemoryKeeper.Proofs.Blanks
import MemoryKeeper.Proofs.Expressions
import MemoryKeeper.Proofs.Tasks
import MemoryKeeper.Proofs.Tokens

/-!
# Truncated commands

A command ends with its only closing parenthesis, so no text that stops before
that is a command. Where the text stops does not matter: a cut can shorten a
string, drop half of an escape or turn a number into a word, but it never makes a
closing parenthesis out of something else.
-/

namespace MemoryKeeper

open MemoryKeeper.Text

namespace Command

variable {line cut : String} {command : Command}

/-- A line whose last token is no closing parenthesis is no command. -/
theorem exists_error_of_notClosed
    (notClosed : ∀ front, Token.tokenize line ≠ front ++ [.closeParen]) :
    ∃ error, process line = .error error ∧ error.kind = "parse-error" := by
  rcases read : Expression.read line with error | expression
  · rcases Expression.exists_parse_of_ofTokens read with ⟨problem, position, rfl⟩
    exact ⟨_, by rw [process, read]; rfl, rfl⟩
  · rcases Expression.ofTokens_eq_ok_iff.mp read with
      ⟨token, value, -, -, rfl⟩ | ⟨operation, front, arguments, tokens, -, -⟩
    · exact ⟨.parse .notACall none, by rw [process, read]; rfl, rfl⟩
    · exact absurd tokens (notClosed (.openParen :: .word operation :: front))

/-- The only closing parenthesis of a command is the last token. -/
theorem tokenize_of_process (processed : process line = .ok command) :
    ∃ front, Token.tokenize line = front ++ [.closeParen] ∧ .closeParen ∉ front := by
  rcases Except.bind_eq_ok_iff.mp processed with ⟨expression, read, accepted⟩
  rcases Expression.ofTokens_eq_ok_iff.mp read with
    ⟨token, value, -, -, rfl⟩ | ⟨operation, front, arguments, tokens, literals, -⟩
  · cases accepted
  · refine ⟨.openParen :: .word operation :: front, tokens, ?_⟩
    have noClose : .closeParen ∉ front := by
      intro inside
      have isNone := List.mem_map_of_mem (f := Token.literal?) inside
      rw [literals, List.mem_map] at isNone
      rcases isNone with ⟨value, -, impossible⟩
      cases impossible
    simp [noClose]

theorem noCloseParen_of_truncated (processed : process line = .ok command)
    (isBeginning : cut.toList <+: trim line.toList) (shorter : cut.toList ≠ trim line.toList) :
    .closeParen ∉ Token.tokenize cut := by
  intro closes
  rcases isBeginning with ⟨missing, whole⟩
  rcases exists_trim cut.toList with ⟨left, right, around, leftBlank, -⟩
  rcases Token.exists_closeParen closes with ⟨front, tail, before, found, again⟩
  rcases tokenize_of_process processed with ⟨others, tokens, noClose⟩
  -- The parenthesis that the cut text closes with is found in the whole text, too.
  have scanned := again (tail ++ right ++ missing)
  rw [← Token.scan_blanks leftBlank] at scanned
  have same : left ++ (front ++ ')' :: (tail ++ right ++ missing)) = trim line.toList := by
    rw [← whole, around, found]
    simp
  rw [same] at scanned
  have nothing : Token.scan (tail ++ right ++ missing) = [] := by
    rcases List.eq_nil_or_concat (Token.scan (tail ++ right ++ missing)) with
      empty | ⟨inner, last, more⟩
    · exact empty
    · have parts : before ++ .closeParen :: inner ++ [last] = others ++ [.closeParen] := by
        rw [← tokens, Token.tokenize, scanned, more]
        simp
      rw [← (List.append_inj' parts rfl).1] at noClose
      simp at noClose
  have blank := Token.all_isBlank_of_scan nothing
  rcases List.eq_nil_or_concat missing with complete | ⟨middle, last, ends⟩
  · rw [complete, List.append_nil] at whole
    exact shorter whole
  · have shape : trim line.toList = cut.toList ++ middle ++ [last] := by
      rw [← whole, ends]
      simp
    have solid := not_isBlank_of_trim shape
    rw [blank last (by simp [ends])] at solid
    cases solid

/-- A line that ends inside a string is no command. -/
theorem exists_error_of_endsInString (ends : Token.endsInString false line.toList) :
    ∃ error, process line = .error error ∧ error.kind = "parse-error" := by
  have noQuote : ∀ blanks : List Char, (∀ character ∈ blanks, isBlank character) →
      '"' ∉ blanks := by
    intro blanks allBlank isQuote
    cases allBlank _ isQuote
  rcases exists_trim line.toList with ⟨left, right, around, leftBlank, rightBlank⟩
  rw [around, List.append_assoc, Token.endsInString_append (noQuote left leftBlank)] at ends
  rcases Token.scan_of_endsInString
    (Token.endsInString_of_append (noQuote right rightBlank) ends) with ⟨before, content, tokens⟩
  apply exists_error_of_notClosed
  intro front closed
  rw [Token.tokenize, tokens] at closed
  cases (List.append_inj' closed rfl).2

/-- No beginning of a command is a command, and it does nothing when it is executed. -/
theorem nothing_done_of_truncated :
    (∀ line cut command, process line = .ok command → cut.toList <+: trim line.toList →
      cut.toList ≠ trim line.toList →
      ∃ error, process cut = .error error ∧ error.kind = "parse-error" ∧
        ∀ check path holder world,
          (respond check path cut).run holder world = (.failed error, world)) ∧
    ∀ line, Token.endsInString false line.toList →
      ∃ error, process line = .error error ∧ error.kind = "parse-error" := by
  constructor
  · intro line cut command processed isBeginning shorter
    have noClose := noCloseParen_of_truncated processed isBeginning shorter
    have notClosed : ∀ front, Token.tokenize cut ≠ front ++ [.closeParen] := by
      intro front closed
      simp [closed] at noClose
    rcases exists_error_of_notClosed notClosed with ⟨error, refused, isParse⟩
    refine ⟨error, refused, isParse, ?_⟩
    intro check path holder world
    rw [respond, refused]
    rfl
  · intro line
    exact exists_error_of_endsInString

/-- A command that is cut behind the backslash of an escape. -/
theorem nothing_done_of_half_escape :
    let line := "(create 💡 \"a\" \"b\\\"c\")"
    let cut := "(create 💡 \"a\" \"b\\"
    process line = .ok (.create .insight ⟨"a", by decide⟩ "b\"c") ∧
      Token.endsInString false cut.toList ∧
      ∃ error, process cut = .error error ∧ error.kind = "parse-error" ∧
        ∀ check path holder world,
          (respond check path cut).run holder world = (.failed error, world) := by
  intro line cut
  have processed : process line = .ok (.create .insight ⟨"a", by decide⟩ "b\"c") := by
    apply Except.eq_ok_of_toOption
    decide +kernel
  have isBeginning : cut.toList <+: trim line.toList := ⟨"\"c\")".toList, by decide⟩
  exact ⟨processed, by decide,
    nothing_done_of_truncated.1 line cut _ processed isBeginning (by decide)⟩

end Command

end MemoryKeeper

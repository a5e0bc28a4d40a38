import MemoryKeeper.Proofs.Calls
import MemoryKeeper.Proofs.Logs

/-!
# Patterns of literal texts

A log is searched with an extended regular expression. Read from left to right, a
backslash in it makes the character behind it stand for itself; some other
characters have a meaning of their own where no backslash stands before them, and
so has a backslash with nothing behind it. The pattern of a text is read as the
characters of that text and nothing else, so a search of the log looks for the text
that was asked for.
-/

namespace MemoryKeeper

namespace Git

namespace Pattern

/-- What a character of a pattern is there for. -/
inductive Part where
  /-- The character stands for itself. -/
  | literal (character : Char)
  /-- The character has a meaning of its own. -/
  | operator (character : Char)
  deriving DecidableEq, Repr

/-- The characters that have a meaning of their own where no backslash stands before them. -/
def operators : List Char :=
  ['.', '[', ']', '(', ')', '*', '+', '?', '\x7b', '\x7d', '|', '^', '$']

/-- The parts of a pattern, read from left to right. -/
def parts : List Char → List Part
  | [] => []
  | ['\\'] => [.operator '\\']
  | '\\' :: character :: rest => .literal character :: parts rest
  | character :: rest =>
    (if character ∈ operators then .operator character else .literal character) :: parts rest

theorem parts_backslash (character : Char) (rest : List Char) :
    parts ('\\' :: character :: rest) = .literal character :: parts rest := by
  rw [parts]

theorem parts_cons {character : Char} (plain : character ≠ '\\') (rest : List Char) :
    parts (character :: rest) =
      (if character ∈ operators then .operator character else .literal character) ::
        parts rest := by
  rw [parts]
  · intro isBackslash
    exact absurd isBackslash plain
  · intro next behind isBackslash
    exact absurd isBackslash plain

end Pattern

open Pattern (Part operators parts)

theorem isSpecial_iff (character : Char) :
    isSpecial character ↔ character = '\\' ∨ character ∈ operators := by
  simp only [isSpecial, operators, List.contains_eq_mem, decide_eq_true_eq, List.mem_cons,
    List.not_mem_nil, or_false]
  tauto

@[simp]
theorem escapePattern_nil : escapePattern [] = [] :=
  rfl

theorem escapePattern_cons (character : Char) (text : List Char) :
    escapePattern (character :: text) =
      (if isSpecial character then ['\\', character] else [character]) ++ escapePattern text :=
  List.flatMap_cons

theorem escapePattern_append (left right : List Char) :
    escapePattern (left ++ right) = escapePattern left ++ escapePattern right :=
  List.flatMap_append

/-- The pattern of a text is read as its characters, whatever stands behind it. -/
theorem parts_escapePattern_append (text rest : List Char) :
    parts (escapePattern text ++ rest) = text.map .literal ++ parts rest := by
  induction text with
  | nil => rfl
  | cons character text ih =>
      rw [escapePattern_cons, List.append_assoc, List.map_cons, List.cons_append, ← ih]
      by_cases special : isSpecial character
      · rw [if_pos special]
        exact Pattern.parts_backslash character _
      · have plain := mt (isSpecial_iff character).mpr special
        rw [not_or] at plain
        rw [if_neg special, List.singleton_append, Pattern.parts_cons plain.1, if_neg plain.2]

theorem parts_escapePattern (text : List Char) :
    parts (escapePattern text) = text.map .literal := by
  have read := parts_escapePattern_append text []
  rwa [List.append_nil, parts, List.append_nil] at read

theorem escapePattern_injective : Function.Injective escapePattern := by
  intro left right same
  have literal : Function.Injective Part.literal := fun _ _ equal => Part.literal.inj equal
  apply List.map_injective_iff.mpr literal
  rw [← parts_escapePattern, ← parts_escapePattern, same]

end Git

namespace Session

variable {session : Session}

/-- A log calls git for nothing but the log. -/
theorem issues_log_of_logging {allowed : Git.Invocation → Prop} {depth : Depth}
    {options : List String} {path : String}
    (logs : allowed (session.logging depth options path)) :
    (session.log depth options path).Issues allowed := by
  rw [log]
  refine silent_head.issues.bind fun found => ?_
  cases found with
  | none => exact Task.issues_pure []
  | some identifier =>
      refine (issues_git logs [0]).bind fun printed => ?_
      exact Task.issues_pure _

/-- Whether a process is one that a search of memories and of the log is made with: it is given the
text itself, or a pattern that is read as the text. -/
inductive LooksFor (session : Session) (query : String) (depth : Depth) : Git.Invocation → Prop
  | memories : session.LooksFor query depth (session.searching query)
  | log (pattern : List Char) (literal : Git.Pattern.parts pattern = query.toList.map .literal) :
      session.LooksFor query depth
        (session.logging depth ["-i", "-G" ++ String.ofList pattern] scope)

theorem looksFor_search (query : String) (depth : Depth) :
    (session.search query depth).Issues (session.LooksFor query depth) := by
  rw [search]
  refine (issues_git .memories [0, 1]).bind fun found => ?_
  refine (issues_log_of_logging ?_).bind fun commits => Task.issues_pure _
  exact .log _ (Git.parts_escapePattern query.toList)

/-- The pattern of a text is read as its characters, one after the other and each as itself. So no
two texts have one pattern, patterns of texts can be put together like the texts, and all that a
search asks git for is its text. -/
theorem search_looks_for_literal_text :
    (∀ text, Git.Pattern.parts (Git.escapePattern text) = text.map .literal) ∧
    Function.Injective Git.escapePattern ∧
    (∀ left right, Git.escapePattern (left ++ right) =
      Git.escapePattern left ++ Git.escapePattern right) ∧
    ∀ (session : Session) (query : String) (depth : Depth) (holder : Holder) (world : World),
      ∀ call ∈ (session.search query depth).calls holder world,
        session.LooksFor query depth call.invocation :=
  ⟨Git.parts_escapePattern, Git.escapePattern_injective, Git.escapePattern_append,
    fun _ query depth => looksFor_search query depth⟩

example : Git.escapePattern "a.b*(c)".toList = "a\\.b\\*\\(c\\)".toList := by decide

end Session

end MemoryKeeper

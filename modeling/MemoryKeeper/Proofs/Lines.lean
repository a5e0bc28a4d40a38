import MemoryKeeper.Text.Lines
import Mathlib.Data.List.Basic

/-!
# Lines and cuts

A text is read line by line: what was written in lines comes back as these lines.
A cut at a separator finds the first one, so it takes a text apart in the only way
in which nothing before the separator holds it again.
-/

namespace MemoryKeeper.Text

/-- A text is its last line, or a line with its line feed and another text. -/
@[elab_as_elim]
theorem line_induction {motive : List Char → Prop}
    (last : ∀ line, '\n' ∉ line → motive line)
    (more : ∀ line rest, '\n' ∉ line → motive rest → motive (line ++ '\n' :: rest))
    (text : List Char) : motive text := by
  by_cases broken : '\n' ∈ text
  · rcases List.eq_append_cons_of_mem broken with ⟨line, rest, shape, unbroken⟩
    rw [shape]
    exact more line rest unbroken (line_induction last more rest)
  · exact last text broken
termination_by text.length
decreasing_by
  rw [shape, List.length_append, List.length_cons]
  omega

/-- A line is read up to its line feed, and the lines behind it are read as if it were not there. -/
theorem linesFrom_append_lineFeed {line : List Char} (unbroken : '\n' ∉ line)
    (collected rest : List Char) :
    linesFrom collected (line ++ '\n' :: rest) =
      dropCarriageReturn (collected ++ line) :: linesFrom [] rest := by
  induction line generalizing collected with
  | nil => simp [linesFrom]
  | cons character line ih =>
      rw [List.mem_cons, not_or] at unbroken
      rw [List.cons_append, linesFrom, ih unbroken.2, List.append_assoc, List.singleton_append]
      exact Ne.symm unbroken.1

/-- Texts that are written line by line are read line by line, less a carriage return each. -/
theorem linesFrom_flatMap {Part : Type} {write : Part → List Char} {parts : List Part}
    (unbroken : ∀ part ∈ parts, '\n' ∉ write part) :
    linesFrom [] (parts.flatMap fun part => write part ++ ['\n']) =
      parts.map fun part => dropCarriageReturn (write part) := by
  induction parts with
  | nil => rfl
  | cons part parts ih =>
      rw [List.forall_mem_cons] at unbroken
      rw [List.flatMap_cons, List.append_assoc, List.singleton_append,
        linesFrom_append_lineFeed unbroken.1, List.nil_append, ih unbroken.2, List.map_cons]

theorem cut_append {separator : Char} {before : List Char} (absent : separator ∉ before)
    (after : List Char) :
    cut separator (before ++ separator :: after) = (before, some after) := by
  induction before with
  | nil => simp [cut]
  | cons character before ih =>
      rw [List.mem_cons, not_or] at absent
      rw [List.cons_append, cut, if_neg (Ne.symm absent.1), ih absent.2]

theorem cut_of_notMem {separator : Char} {text : List Char} (absent : separator ∉ text) :
    cut separator text = (text, none) := by
  induction text with
  | nil => rfl
  | cons character text ih =>
      rw [List.mem_cons, not_or] at absent
      rw [cut, if_neg (Ne.symm absent.1), ih absent.2]

/-- A text holds no separator, or it is what stands before its first one and what follows it. -/
theorem separated_cases (separator : Char) (text : List Char) :
    separator ∉ text ∨
      ∃ before after, separator ∉ before ∧ text = before ++ separator :: after := by
  by_cases present : separator ∈ text
  · rcases List.eq_append_cons_of_mem present with ⟨before, after, shape, absent⟩
    exact .inr ⟨before, after, absent, shape⟩
  · exact .inl present

theorem separator_notMem_cut (separator : Char) (text : List Char) :
    separator ∉ (cut separator text).1 := by
  rcases separated_cases separator text with absent | ⟨before, after, absent, rfl⟩
  · rwa [cut_of_notMem absent]
  · rwa [cut_append absent]

end MemoryKeeper.Text

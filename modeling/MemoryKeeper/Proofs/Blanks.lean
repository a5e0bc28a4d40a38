import MemoryKeeper.Text.Blank
import Mathlib.Data.List.TakeWhile

/-!
# Trimming and counting words

Trimming drops blanks and nothing else, and leaves a text that has none at either
end. The words of a text are the maximal runs of characters that are no blanks.
-/

namespace MemoryKeeper.Text

theorem exists_trimEnd (text : List Char) :
    ∃ blanks, text = trimEnd text ++ blanks ∧ ∀ character ∈ blanks, isBlank character := by
  refine ⟨(text.reverse.takeWhile isBlank).reverse, ?_, ?_⟩
  · rw [trimEnd, ← List.reverse_append, List.takeWhile_append_dropWhile, List.reverse_reverse]
  · intro character isTaken
    exact List.mem_takeWhile_imp (List.mem_reverse.mp isTaken)

/-- A text is what is left of it by trimming, between blanks. -/
theorem exists_trim (text : List Char) :
    ∃ left right, text = left ++ trim text ++ right ∧ (∀ character ∈ left, isBlank character) ∧
      ∀ character ∈ right, isBlank character := by
  rcases exists_trimEnd (trimStart text) with ⟨right, whole, rightBlank⟩
  refine ⟨text.takeWhile isBlank, right, ?_, ?_, rightBlank⟩
  · rw [List.append_assoc, trim, ← whole, trimStart, List.takeWhile_append_dropWhile]
  · intro character isTaken
    exact List.mem_takeWhile_imp isTaken

theorem not_isBlank_of_trim {text front : List Char} {last : Char}
    (ends : trim text = front ++ [last]) : isBlank last = false := by
  have head : (trimStart text).reverse.dropWhile isBlank = last :: front.reverse := by
    simpa [trim, trimEnd] using congrArg List.reverse ends
  have solid := List.head?_dropWhile_not isBlank (trimStart text).reverse
  simpa [head] using solid

/-- Blanks around a text that has none at either end are what trimming drops. -/
theorem trim_between {left core right : List Char}
    (leftBlank : ∀ character ∈ left, isBlank character)
    (rightBlank : ∀ character ∈ right, isBlank character)
    (solidHead : ∀ first ∈ core.head?, isBlank first = false)
    (solidLast : ∀ last ∈ core.getLast?, isBlank last = false) :
    trim (left ++ core ++ right) = core := by
  have start : trimStart (left ++ core ++ right) = trimStart (core ++ right) := by
    rw [trimStart, List.append_assoc, List.dropWhile_append_of_pos leftBlank, trimStart]
  rw [trim, start]
  cases core with
  | nil =>
      have nothing : right.dropWhile isBlank = [] := by
        simpa [List.dropWhile_eq_nil_iff] using rightBlank
      simp [trimStart, trimEnd, nothing]
  | cons first rest =>
      have kept : trimStart (first :: rest ++ right) = first :: rest ++ right := by
        simp [trimStart, solidHead first rfl]
      have dropped : ∀ character ∈ right.reverse, isBlank character := by
        simpa using rightBlank
      rw [kept, trimEnd, List.reverse_append, List.dropWhile_append_of_pos dropped]
      rcases List.eq_nil_or_concat (first :: rest) with empty | ⟨front, last, shape⟩
      · cases empty
      · rw [shape] at solidLast ⊢
        simp [solidLast last (by simp)]

/-- A text with no blank at either end is left as it is. -/
theorem trim_bounded {first last : Char} (solidFirst : isBlank first = false)
    (solidLast : isBlank last = false) (middle : List Char) :
    trim (first :: middle ++ [last]) = first :: middle ++ [last] := by
  have bounded := @trim_between [] (first :: middle ++ [last]) [] (by simp) (by simp)
    (by simpa using solidFirst) (by simpa [List.getLast?_cons] using solidLast)
  simpa using bounded

/-- The maximal runs of characters that are no blanks. -/
def words (text : String) : List (List Char) :=
  (text.toList.splitOnP isBlank).filter (!·.isEmpty)

theorem wordStarts_eq (text : List Char) :
    wordStarts false text = ((text.splitOnP isBlank).filter (!·.isEmpty)).length ∧
      wordStarts true text = ((text.splitOnP isBlank).drop 1 |>.filter (!·.isEmpty)).length := by
  induction text with
  | nil => simp [wordStarts]
  | cons character rest ih =>
      rw [List.splitOnP_cons_eq_if_modifyHead]
      rcases List.exists_cons_of_ne_nil (List.splitOnP_ne_nil isBlank rest) with
        ⟨piece, pieces, shape⟩
      rw [shape] at ih ⊢
      by_cases blank : isBlank character
      · simpa [wordStarts, blank] using ih.1
      · simpa [wordStarts, blank] using ih.2

theorem wordCount_eq (text : String) : wordCount text = (words text).length :=
  (wordStarts_eq text.toList).1

end MemoryKeeper.Text

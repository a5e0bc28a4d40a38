import MemoryKeeper.Command.Token
import MemoryKeeper.Proofs.Blanks
import MemoryKeeper.Proofs.Timestamps

/-!
# Scanning token by token

A scan takes the first token of a text and goes on with what follows it. What the
first token is depends on the character behind it at most, because a word or a
number ends before the next character and a string ends behind its quote. So a
token that was found before some text is found again before any other text that
begins in the same way.
-/

namespace MemoryKeeper.Token

open MemoryKeeper.Text

/-- The token that a text without a blank at its start begins with, and what follows it. -/
def first (character : Char) (rest : List Char) : Token × List Char :=
  if character = '(' then (.openParen, rest)
  else if character = ')' then (.closeParen, rest)
  else if character = '"' then
    (.string (String.ofList (readString rest).1), (readString rest).2)
  else if startsNumber character rest then
    (.number (String.ofList (character :: rest.takeWhile continuesNumber)),
      rest.dropWhile continuesNumber)
  else if Symbol.isGlyph character then (.glyph (String.singleton character), rest)
  else
    (.word (String.ofList (character :: rest.takeWhile (!endsWord ·))),
      rest.dropWhile (!endsWord ·))

variable {character : Char} {rest after text : List Char} {token : Token}

@[simp]
theorem scan_nil : scan [] = [] := by
  -- `rw [scan]` would first derive an equation for each case, which takes long
  rw [scan.eq_def]

theorem scan_blank (blank : isBlank character) (rest : List Char) :
    scan (character :: rest) = scan rest := by
  rw [scan.eq_def]
  exact if_pos blank

theorem scan_first (solid : isBlank character = false) (rest : List Char) :
    scan (character :: rest) = (first character rest).1 :: scan (first character rest).2 := by
  rw [scan.eq_def, first]
  simp only [solid, Bool.false_eq_true, if_false]
  split_ifs <;> rfl

theorem length_first_le (character : Char) (rest : List Char) :
    (first character rest).2.length ≤ rest.length := by
  have string := length_readString_le rest
  have number := (List.dropWhile_sublist continuesNumber (l := rest)).length_le
  have word := (List.dropWhile_sublist (!endsWord ·) (l := rest)).length_le
  rw [first]
  split_ifs <;> simp_all

/-- A property of texts that holds of the empty one, and of every other one if it holds behind its
first blank or token. -/
theorem scan_induction {holds : List Char → Prop} (nil : holds [])
    (blank : ∀ character rest, isBlank character → holds rest → holds (character :: rest))
    (solid : ∀ character rest, isBlank character = false → holds (first character rest).2 →
      holds (character :: rest)) (text : List Char) : holds text := by
  induction size : text.length using Nat.strongRecOn generalizing text with
  | ind size ih =>
      subst size
      cases text with
      | nil => exact nil
      | cons character rest =>
          by_cases isBlank : isBlank character
          · exact blank character rest isBlank (ih _ (by simp) rest rfl)
          · refine solid character rest (by simpa using isBlank) (ih _ ?_ _ rfl)
            have shorter := length_first_le character rest
            rw [List.length_cons]
            omega

theorem all_isBlank_of_scan (nothing : scan text = []) : ∀ character ∈ text, isBlank character := by
  induction text using scan_induction with
  | nil => simp
  | blank character rest blank ih =>
      rw [scan_blank blank] at nothing
      simpa [blank] using ih nothing
  | solid character rest solid _ =>
      rw [scan_first solid] at nothing
      cases nothing

theorem tokenize_eq_nil_iff (line : String) : tokenize line = [] ↔ isBlankText line := by
  rw [tokenize, isBlankText, List.all_eq_true]
  constructor
  · intro nothing
    have coreBlank := all_isBlank_of_scan nothing
    rcases exists_trim line.toList with ⟨left, right, shape, leftBlank, rightBlank⟩
    rw [shape]
    simp only [List.forall_mem_append]
    exact ⟨⟨leftBlank, coreBlank⟩, rightBlank⟩
  · intro blank
    have trimmed := @trim_between line.toList [] [] blank (by simp) (by simp) (by simp)
    rw [List.append_nil, List.append_nil] at trimmed
    rw [trimmed, scan_nil]

theorem readString_delimited (more : (readString text).2 ≠ []) :
    ∃ consumed, text = consumed ++ (readString text).2 ∧
      ∀ other, readString (consumed ++ other) = ((readString text).1, other) := by
  fun_induction readString text with
  | case1 => contradiction
  | case2 rest => exact ⟨['"'], rfl, fun _ => by simp [readString]⟩
  | case3 => contradiction
  | case4 letter rest decoded after read ih =>
      rw [read] at ih
      rcases ih more with ⟨consumed, rfl, again⟩
      exact ⟨'\\' :: letter :: consumed, rfl, fun other => by simp [readString, again]⟩
  | case5 character rest notQuote notLast notEscape decoded after read ih =>
      rw [read] at ih
      rcases ih more with ⟨consumed, rfl, again⟩
      have plain : character ≠ '\\' := by
        rintro rfl
        cases rest : consumed ++ after with
        | nil => exact notLast rfl rest
        | cons letter tail => exact notEscape letter tail rfl rest
      refine ⟨character :: consumed, rfl, ?_⟩
      intro other
      simp [readString, plain, again]

theorem takeWhile_delimited {continues : Char → Bool} (more : text.dropWhile continues ≠ [])
    {other : List Char} (same : other.head? = (text.dropWhile continues).head?) :
    (text.takeWhile continues ++ other).takeWhile continues = text.takeWhile continues ∧
      (text.takeWhile continues ++ other).dropWhile continues = other := by
  have taken : ∀ character ∈ text.takeWhile continues, continues character := by
    intro character isTaken
    exact List.mem_takeWhile_imp isTaken
  rcases List.exists_cons_of_ne_nil more with ⟨ending, tail, dropped⟩
  have ends : continues ending = false := by
    have head := List.head?_dropWhile_not continues text
    simpa [dropped] using head
  rcases List.head?_eq_some_iff.mp (same.trans (by rw [dropped]; rfl)) with ⟨others, rfl⟩
  rw [List.takeWhile_append_of_pos taken, List.dropWhile_append_of_pos taken]
  simp [ends]

theorem startsNumber_congr {left right : List Char} (same : left.head? = right.head?) :
    startsNumber character left = startsNumber character right := by
  rw [startsNumber, startsNumber, same]

/-- A run of characters that ended before some text ends before any text that begins with the same
character. -/
theorem startsNumber_run {continues : Char → Bool} {other : List Char}
    (same : other.head? = (text.dropWhile continues).head?) :
    startsNumber character (text.takeWhile continues ++ other) = startsNumber character text := by
  apply startsNumber_congr
  rw [List.head?_append, same, ← List.head?_append, List.takeWhile_append_dropWhile]

/-- A token before some text is found again before any text that begins with the same character. -/
theorem first_delimited (more : (first character rest).2 ≠ []) :
    ∃ consumed, rest = consumed ++ (first character rest).2 ∧
      ∀ other, other.head? = (first character rest).2.head? →
        first character (consumed ++ other) = ((first character rest).1, other) := by
  rcases found : first character rest with ⟨token, after⟩
  rw [found] at more
  rw [first] at found
  split_ifs at found with isOpen isClose isQuote isNumber isGlyph
  · cases found
    exact ⟨[], rfl, fun other _ => by simp [first, isOpen]⟩
  · cases found
    exact ⟨[], rfl, fun other _ => by simp [first, isClose]⟩
  · cases found
    rcases readString_delimited more with ⟨consumed, whole, again⟩
    exact ⟨consumed, whole, fun other _ => by simp [first, isQuote, again]⟩
  · cases found
    refine ⟨_, (List.takeWhile_append_dropWhile (p := continuesNumber)).symm, ?_⟩
    intro other same
    rcases takeWhile_delimited more same with ⟨taken, dropped⟩
    simp [first, isOpen, isClose, isQuote, startsNumber_run same, isNumber, taken, dropped]
  · cases found
    refine ⟨[], rfl, ?_⟩
    intro other same
    simp [first, isOpen, isClose, isQuote, startsNumber_congr same, isNumber, isGlyph]
  · cases found
    refine ⟨_, (List.takeWhile_append_dropWhile (p := (!endsWord ·))).symm, ?_⟩
    intro other same
    rcases takeWhile_delimited more same with ⟨taken, dropped⟩
    simp [first, isOpen, isClose, isQuote, startsNumber_run same, isNumber, isGlyph, taken, dropped]

theorem scan_blanks {blanks : List Char} (allBlank : ∀ character ∈ blanks, isBlank character)
    (rest : List Char) : scan (blanks ++ rest) = scan rest := by
  induction blanks with
  | nil => rfl
  | cons character blanks ih =>
      rw [List.forall_mem_cons] at allBlank
      rw [List.cons_append, scan_blank allBlank.1, ih allBlank.2]

/-- A closing parenthesis that was found is found again, whatever follows it. -/
theorem exists_closeParen (closes : .closeParen ∈ scan text) :
    ∃ front tail before, text = front ++ ')' :: tail ∧
      ∀ other, scan (front ++ ')' :: other) = before ++ .closeParen :: scan other := by
  induction text using scan_induction with
  | nil => simp at closes
  | blank character rest blank ih =>
      rw [scan_blank blank] at closes
      rcases ih closes with ⟨front, tail, before, rfl, again⟩
      refine ⟨character :: front, tail, before, rfl, ?_⟩
      intro other
      rw [List.cons_append, scan_blank blank, again]
  | solid character rest solid ih =>
      by_cases isClose : character = ')'
      · subst isClose
        refine ⟨[], rest, [], rfl, ?_⟩
        intro other
        rw [List.nil_append, scan_first solid]
        rfl
      · rw [scan_first solid] at closes
        have different : (first character rest).1 ≠ .closeParen := by
          rw [first]
          split_ifs <;> simp
        have further := (List.mem_cons.mp closes).resolve_left different.symm
        rcases ih further with ⟨front, tail, before, behind, again⟩
        have more : (first character rest).2 ≠ [] := by
          rw [behind]
          simp
        rcases first_delimited more with ⟨consumed, whole, same⟩
        refine ⟨character :: (consumed ++ front), tail, (first character rest).1 :: before, ?_, ?_⟩
        · rw [List.cons_append, List.append_assoc, ← behind, ← whole]
        · intro other
          have head : (front ++ ')' :: other).head? = (first character rest).2.head? := by
            rw [behind]
            cases front <;> rfl
          rw [List.cons_append, List.append_assoc, scan_first solid, same _ head, again]
          rfl

/-- Whether a text ends inside a string, given whether it begins inside one. A quote behind a
backslash belongs to the string. -/
def endsInString : Bool → List Char → Bool
  | inside, [] => inside
  | false, character :: rest => endsInString (character = '"') rest
  | true, '"' :: rest => endsInString false rest
  | true, ['\\'] => true
  | true, '\\' :: _ :: rest => endsInString true rest
  | true, _ :: rest => endsInString true rest

theorem endsInString_append {plain : List Char} (noQuote : '"' ∉ plain) (rest : List Char) :
    endsInString false (plain ++ rest) = endsInString false rest := by
  induction plain with
  | nil => rfl
  | cons character plain ih =>
      rw [List.mem_cons, not_or] at noQuote
      simp [endsInString, Ne.symm noQuote.1, ih noQuote.2]

/-- A text that ends inside a string does so without the characters at its end that are no
quotes. -/
theorem endsInString_of_append {inside : Bool} {plain : List Char} (noQuote : '"' ∉ plain)
    (ends : endsInString inside (text ++ plain)) : endsInString inside text := by
  fun_induction endsInString inside text with
  | case1 inside =>
      cases inside with
      | true => rfl
      | false =>
          have never := endsInString_append noQuote []
          simp only [List.append_nil] at never
          simp [never, endsInString] at ends
  | case2 character rest ih => exact ih ends
  | case3 rest ih => exact ih ends
  | case4 => rfl
  | case5 letter rest ih => exact ih ends
  | case6 character rest notQuote notLast notEscape ih =>
      apply ih
      have inside : character ≠ '\\' := by
        rintro rfl
        cases rest with
        | nil => exact notLast rfl rfl
        | cons letter tail => exact notEscape letter tail rfl rfl
      simpa [endsInString, inside] using ends

theorem endsInString_readString (ends : endsInString true text) :
    (readString text).2 = [] ∨ endsInString false (readString text).2 := by
  fun_induction readString text with
  | case1 => simp
  | case2 rest => simp_all [endsInString]
  | case3 => simp
  | case4 letter rest decoded after read ih =>
      rw [read] at ih
      exact ih (by simpa [endsInString] using ends)
  | case5 character rest notQuote notLast notEscape decoded after read ih =>
      rw [read] at ih
      apply ih
      rwa [endsInString] at ends
      all_goals assumption

theorem quote_notMem_takeWhile {continues : Char → Bool} (stops : continues '"' = false)
    (text : List Char) : '"' ∉ text.takeWhile continues := by
  intro isTaken
  have continued := List.mem_takeWhile_imp isTaken
  rw [stops] at continued
  cases continued

/-- A text that ends inside a string begins with that string, or still does so behind its first
token. -/
theorem endsInString_first (ends : endsInString false (character :: rest)) :
    (∃ content, first character rest = (.string content, [])) ∨
      endsInString false (first character rest).2 := by
  rw [endsInString] at ends
  by_cases isQuote : character = '"'
  · subst isQuote
    rcases endsInString_readString (by simpa using ends) with last | further
    · exact .inl ⟨_, Prod.ext rfl last⟩
    · exact .inr further
  · right
    rw [decide_eq_false isQuote] at ends
    have noQuote : '"' ∉ rest.takeWhile continuesNumber :=
      quote_notMem_takeWhile (by decide) rest
    have noQuoteToo : '"' ∉ rest.takeWhile (!endsWord ·) :=
      quote_notMem_takeWhile (by decide) rest
    have number := endsInString_append noQuote (rest.dropWhile continuesNumber)
    have word := endsInString_append noQuoteToo (rest.dropWhile (!endsWord ·))
    rw [List.takeWhile_append_dropWhile] at number word
    rw [first]
    split_ifs <;> simp_all

theorem scan_of_endsInString (ends : endsInString false text) :
    ∃ before content, scan text = before ++ [.string content] := by
  induction text using scan_induction with
  | nil => simp [endsInString] at ends
  | blank character rest blank ih =>
      have noQuote : '"' ∉ [character] := by
        intro isQuote
        rw [← List.mem_singleton.mp isQuote] at blank
        cases blank
      rw [scan_blank blank]
      exact ih (endsInString_append noQuote rest ▸ ends)
  | solid character rest solid ih =>
      rw [scan_first solid]
      rcases endsInString_first ends with ⟨content, found⟩ | further
      · exact ⟨[], content, by rw [found, scan_nil]; rfl⟩
      · rcases ih further with ⟨before, content, scanned⟩
        exact ⟨_ :: before, content, by rw [scanned]; rfl⟩

/-- The text between quotes that a string is read from: a backslash stands before each quote and
each backslash. -/
def escape (content : List Char) : List Char :=
  content.flatMap fun character =>
    if character = '"' ∨ character = '\\' then ['\\', character] else [character]

theorem readString_escape (content rest : List Char) :
    readString (escape content ++ '"' :: rest) = (content, rest) := by
  induction content with
  | nil => simp [escape, readString]
  | cons character content ih =>
      rw [escape] at ih ⊢
      rw [List.flatMap_cons, List.append_assoc]
      by_cases isQuote : character = '"'
      · simp [isQuote, readString, ih, unescape]
      · by_cases isEscape : character = '\\'
        · simp [isEscape, readString, ih, unescape]
        · simp [isQuote, isEscape, readString, ih]

/-- The way to write a token. -/
def spell : Token → List Char
  | .openParen => ['(']
  | .closeParen => [')']
  | .string text => '"' :: escape text.toList ++ ['"']
  | .number text => text.toList
  | .word text => text.toList
  | .glyph text => text.toList

/-- A token that a scan can find. A number is a digit or a hyphen and a digit, and then digits and
points; a word begins as nothing else does. -/
def IsScannable : Token → Prop
  | .openParen => True
  | .closeParen => True
  | .string _ => True
  | .number text => ∃ character rest, text.toList = character :: rest ∧
      startsNumber character rest ∧ rest.all continuesNumber
  | .word text => ∃ character rest, text.toList = character :: rest ∧
      startsNumber character rest = false ∧ Symbol.isGlyph character = false ∧
      (character :: rest).all (!endsWord ·)
  | .glyph text => ∃ symbol : Symbol, text = symbol.glyph

theorem endsWord_of_isDigit (digit : character.isDigit) : endsWord character = false := by
  have solid := Timestamp.isBlank_of_isDigit digit
  rw [endsWord, solid]
  by_contra special
  simp only [Bool.false_or, Bool.or_eq_false_iff, decide_eq_false_iff_not, not_and_or,
    not_not] at special
  rcases special with (rfl | rfl) | rfl <;> cases digit

theorem endsWord_of_continuesNumber (continued : continuesNumber character) :
    endsWord character = false := by
  rw [continuesNumber, Bool.or_eq_true] at continued
  rcases continued with digit | point
  · exact endsWord_of_isDigit digit
  · rw [of_decide_eq_true point]
    decide

theorem not_isBlank_of_endsWord (inside : endsWord character = false) :
    isBlank character = false ∧ character ≠ '(' ∧ character ≠ ')' ∧ character ≠ '"' := by
  simpa [endsWord, and_assoc] using inside

/-- Whether a token shows by itself where it ends. -/
def isClosed : Token → Bool
  | .openParen => true
  | .closeParen => true
  | .string _ => true
  | _ => false

/-- A written token that shows where it ends is found again whatever follows it. -/
theorem scan_spell_of_isClosed (closed : token.isClosed) (after : List Char) :
    scan (token.spell ++ after) = token :: scan after := by
  cases token with
  | openParen =>
      rw [spell, List.singleton_append, scan_first (by decide)]
      rfl
  | closeParen =>
      rw [spell, List.singleton_append, scan_first (by decide)]
      rfl
  | string content =>
      have read := readString_escape content.toList after
      rw [spell, List.cons_append, List.cons_append, List.append_assoc, List.singleton_append,
        scan_first (by decide)]
      simp [first, read]
  | _ => cases closed

section Apart

variable (apart : after.head?.all endsWord)

include apart

theorem run_apart {continues : Char → Bool}
    (stops : ∀ character, endsWord character → continues character = false)
    (continued : rest.all continues) :
    (rest ++ after).takeWhile continues = rest ∧ (rest ++ after).dropWhile continues = after := by
  rw [List.all_eq_true] at continued
  rw [List.takeWhile_append_of_pos continued, List.dropWhile_append_of_pos continued]
  cases after with
  | nil => simp
  | cons ending others => simp [stops ending (by simpa using apart)]

theorem startsNumber_apart : startsNumber character (rest ++ after) = startsNumber character rest := by
  cases rest with
  | cons second others => rfl
  | nil =>
      cases after with
      | nil => rfl
      | cons ending others =>
          have noDigit : ending.isDigit = false := by
            by_contra digit
            have inside := endsWord_of_isDigit (by simpa using digit)
            rw [List.head?_cons, Option.all_some, inside] at apart
            cases apart
          simp [startsNumber, noDigit]

/-- A written token is found again if what follows it ends words. -/
theorem scan_spell (scannable : token.IsScannable) :
    scan (token.spell ++ after) = token :: scan after := by
  cases token with
  | number text =>
      rcases scannable with ⟨character, rest, written, starts, continued⟩
      have inside : endsWord character = false := by
        rw [startsNumber, Bool.or_eq_true, Bool.and_eq_true] at starts
        rcases starts with digit | ⟨hyphen, -⟩
        · exact endsWord_of_isDigit digit
        · rw [of_decide_eq_true hyphen]
          decide
      rcases not_isBlank_of_endsWord inside with ⟨solid, notOpen, notClose, notQuote⟩
      have run := run_apart apart (fun character ends => by
        by_contra continued
        rw [endsWord_of_continuesNumber (by simpa using continued)] at ends
        cases ends) continued
      have found : first character (rest ++ after) = (.number text, after) := by
        simp [first, notOpen, notClose, notQuote, startsNumber_apart apart, starts, run, ← written]
      rw [spell, written, List.cons_append, scan_first solid, found]
  | word text =>
      rcases scannable with ⟨character, rest, written, starts, noGlyph, continued⟩
      rw [List.all_cons, Bool.and_eq_true] at continued
      rcases not_isBlank_of_endsWord (by simpa using continued.1) with
        ⟨solid, notOpen, notClose, notQuote⟩
      have run := run_apart apart (fun character ends => by simp [ends]) continued.2
      have found : first character (rest ++ after) = (.word text, after) := by
        simp [first, notOpen, notClose, notQuote, startsNumber_apart apart, starts, noGlyph, run,
          ← written]
      rw [spell, written, List.cons_append, scan_first solid, found]
  | glyph text =>
      rcases scannable with ⟨symbol, rfl⟩
      have found : first symbol.glyphChar after = (.glyph symbol.glyph, after) := by
        cases symbol <;> rfl
      rw [spell, Symbol.glyph, String.toList_singleton, List.singleton_append,
        scan_first (by cases symbol <;> decide), found]
      rfl
  | _ => exact scan_spell_of_isClosed rfl after

end Apart

end MemoryKeeper.Token

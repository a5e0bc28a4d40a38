import MemoryKeeper.Document.Header

/-!
# Tokens of a written header

A written header is a sequence of lines, each with a key, a colon, a space and a
value that stands plainly or in single quotes. The scanner cuts every such line
into the same four tokens and comes to the next line in the same state, so the
tokens of the whole header follow line by line.

Between two lines the scanner may stand before the line break or behind it. Both
positions approach the next line alike, and only that is used of them.
-/

namespace MemoryKeeper.Yaml

/-- The blanks and line breaks. -/
def separators : List Char :=
  [' ', '\t', '\n', '\r', '\x85', '\u2028', '\u2029']

/-- Whether a character neither separates words nor ends a line. -/
def isSolid (character : Char) : Bool :=
  !separators.contains character

/-- Whether a character begins a plain scalar, whatever follows it on its line. -/
def isOpener (character : Char) : Bool :=
  isSolid character && !(indicators ++ ['?', ':', byteOrderMark]).contains character

/-- The letters of keys. -/
def isKeyChar (character : Char) : Bool :=
  'a' ≤ character && character ≤ 'z'

/-- A text that can be a key of a written header. -/
structure IsKey (text : List Char) : Prop where
  nonempty : text ≠ []
  letters : ∀ character ∈ text, isKeyChar character
  short : text.length ≤ longestKey

/-- A text that reads as itself when it stands plainly behind a key. -/
structure IsPlainValue (text : List Char) : Prop where
  solid : ∀ character ∈ text, isSolid character
  opens : ∃ first rest, text = first :: rest ∧ isOpener first ∧ (first = '-' → rest ≠ [])
  colonInside : text.getLast? ≠ some ':'

/-- A text that reads as itself between single quotes. -/
def IsQuotedValue (text : List Char) : Prop :=
  ∀ character ∈ text, isSolid character ∧ character ≠ '\''

/-- A value with its written form, plain or in single quotes. -/
inductive IsWritten : List Char → List Char → Prop where
  | plain {value : List Char} (isValue : IsPlainValue value) : IsWritten value value
  | quoted {value : List Char} (isValue : IsQuotedValue value) :
      IsWritten value ('\'' :: value ++ ['\''])

/-- A class of characters keeps clear of every list of characters that are not in it. -/
theorem contains_eq_false_of_class {inClass : Char → Bool} {excluded : List Char}
    {character : Char} (clear : excluded.all (!inClass ·)) (member : inClass character) :
    excluded.contains character = false := by
  rw [Bool.eq_false_iff]
  intro present
  have outside := List.all_eq_true.mp clear character (List.contains_iff_mem.mp present)
  simp [member] at outside

theorem not_gap_of_isSolid {character : Char} (solid : isSolid character) :
    isGap character = false := by
  simp only [isSolid, separators, List.contains_eq_mem, List.mem_cons] at solid
  simp_all [isGap]

theorem not_break_of_isSolid {character : Char} (solid : isSolid character) :
    isBreak character = false := by
  simp only [isSolid, separators, List.contains_eq_mem, List.mem_cons] at solid
  simp_all [isBreak]

theorem atBlank_cons_of_isSolid {character : Char} {rest : List Char}
    (solid : isSolid character) : atBlank (character :: rest) = false := by
  simp [atBlank, not_gap_of_isSolid solid, not_break_of_isSolid solid]

theorem isOpener_of_isKeyChar {character : Char} (letter : isKeyChar character) :
    isOpener character := by
  have solid : separators.contains character = false :=
    contains_eq_false_of_class (by decide) letter
  have other : (indicators ++ ['?', ':', byteOrderMark]).contains character = false :=
    contains_eq_false_of_class (by decide) letter
  simp only [isOpener, isSolid, solid, other, Bool.not_false, Bool.and_self]

theorem isOpener_clear {character : Char} (opener : isOpener character) :
    ∀ special ∈ indicators ++ ['?', ':', byteOrderMark], character ≠ special := by
  simp only [isOpener, Bool.and_eq_true, Bool.not_eq_true', List.contains_eq_mem,
    decide_eq_false_iff_not] at opener
  rintro special present rfl
  exact opener.2 present

theorem isSolid_of_isOpener {character : Char} (opener : isOpener character) :
    isSolid character := by
  simp only [isOpener, Bool.and_eq_true] at opener
  exact opener.1

theorem isSolid_of_isKeyChar {character : Char} (letter : isKeyChar character) :
    isSolid character :=
  isSolid_of_isOpener (isOpener_of_isKeyChar letter)

theorem readPlain?_solid {text rest : List Char}
    (solid : ∀ character ∈ text, isSolid character) (colonInside : text.getLast? ≠ some ':')
    (indent column : Nat) (read : List Char) :
    readPlain? false indent read .none column (text ++ rest) =
      readPlain? false indent (read ++ text) .none (column + text.length) rest := by
  induction text generalizing column read with
  | nil => simp
  | cons character text ih =>
      have solidHere := solid character (by simp)
      have colon : character = ':' → atBlank (text ++ rest) = false := by
        intro isColon
        cases text with
        | nil => simp [isColon] at colonInside
        | cons next tail => exact atBlank_cons_of_isSolid (solid next (by simp))
      have inside : text.getLast? ≠ some ':' := by
        cases text with
        | nil => simp
        | cons next tail => simpa using colonInside
      have goesOn := ih (fun found present => solid found (by simp [present])) inside (column + 1)
        (read ++ [character])
      have notEnd : (character = ':' && atBlank (text ++ rest)) = false := by
        by_cases isColon : character = ':' <;> simp [isColon, colon]
      rw [List.cons_append, readPlain?]
      simp only [not_gap_of_isSolid solidHere, not_break_of_isSolid solidHere, Fold.hasBreak,
        Fold.isEmpty, Fold.text, notEnd]
      simp only [Bool.false_eq_true, if_false, Bool.and_false, Bool.false_and, Bool.or_self,
        Bool.not_true, List.append_nil, goesOn, List.append_assoc, List.singleton_append,
        List.length_cons]
      congr 1
      omega

/-- A key ends before the colon and the space behind it. -/
theorem readPlain?_key {key : List Char} (isKey : IsKey key) (indent column : Nat)
    (rest : List Char) :
    readPlain? false indent [] .none column (key ++ ':' :: ' ' :: rest) =
      some ⟨key, ⟨':' :: ' ' :: rest, column + key.length⟩, false⟩ := by
  have colonInside : key.getLast? ≠ some ':' := by
    intro last
    exact absurd (isKey.letters ':' (List.mem_of_getLast? last)) (by decide)
  rw [readPlain?_solid (fun _ present => isSolid_of_isKeyChar (isKey.letters _ present))
    colonInside, readPlain?]
  simp [isGap, isBreak, atBlank, Fold.hasBreak]

/-- What may follow a line of a header: nothing, or the key of another line. -/
def BeginsLine (rest : List Char) : Prop :=
  ∀ character ∈ rest.head?, isKeyChar character

/-- A plain value ends with its line, because the next line is not indented. -/
theorem readPlain?_value {value rest : List Char} (isValue : IsPlainValue value)
    (begins : BeginsLine rest) (column : Nat) :
    readPlain? false 1 [] .none column (value ++ '\n' :: rest) =
      some ⟨value, ⟨rest, 0⟩, true⟩ := by
  rw [readPlain?_solid isValue.solid isValue.colonInside, readPlain?]
  simp only [isGap, isBreak]
  cases rest with
  | nil => simp [readPlain?, Fold.addBreak, Fold.hasBreak]
  | cons character rest =>
      have solid := isSolid_of_isKeyChar (begins character (by simp))
      simp [readPlain?, Fold.addBreak, Fold.hasBreak, not_gap_of_isSolid solid,
        not_break_of_isSolid solid]

theorem readSingle?_value {value : List Char} (isValue : IsQuotedValue value) (column : Nat)
    (read rest : List Char) :
    readSingle? read .none column (value ++ '\'' :: '\n' :: rest) =
      some (read ++ value, ⟨'\n' :: rest, column + value.length + 1⟩) := by
  induction value generalizing column read with
  | nil => simp [readSingle?, Fold.text]
  | cons character value ih =>
      have solid := (isValue character (by simp)).1
      have unquoted := (isValue character (by simp)).2
      have goesOn := ih (fun found present => isValue found (by simp [present])) (column + 1)
        (read ++ [character])
      rw [List.cons_append, readSingle?]
      · simp only [not_gap_of_isSolid solid, not_break_of_isSolid solid, Fold.hasBreak, Fold.text]
        simp [goesOn]
        omega
      · intro _ shape _
        exact unquoted shape
      · exact unquoted

theorem skipGap_solid {character : Char} {rest : List Char} (solid : isSolid character)
    (noMark : character ≠ byteOrderMark) (noComment : character ≠ '#') (keyAllowed : Bool)
    (column : Nat) :
    skipGap false false keyAllowed column (character :: rest) =
      ⟨⟨character :: rest, column⟩, keyAllowed⟩ := by
  have gap := not_gap_of_isSolid solid
  simp only [isGap, Bool.or_eq_false_iff, decide_eq_false_iff_not] at gap
  simp [skipGap, not_break_of_isSolid solid, gap.1, gap.2, noMark, noComment]

namespace Scan

/-- The scanner at the start of a line, with no key pending. -/
def atLine (indent : Option Nat) (settled recent : List Token) (rest : List Char) : Scan :=
  ⟨⟨rest, 0⟩, false, indent, true, none, settled, recent⟩

/-- The scanner before or behind the line break that a line follows. -/
structure Approaches (scan : Scan) (indent : Option Nat) (settled recent : List Token)
    (rest : List Char) : Prop where
  approached : scan.approach? = some (atLine indent settled recent rest)
  ahead : rest.length ≤ scan.cursor.rest.length

theorem run?_of_pushed {scan before after : Scan} (approached : scan.approach? = some before)
    (pushed : before.pushNext? = some after) (left : before.cursor.rest ≠ [])
    (shorter : after.cursor.rest.length < scan.cursor.rest.length) :
    scan.run? = after.run? := by
  have notEmpty : before.cursor.rest.isEmpty = false := by simpa using left
  rw [run?, approached]
  simp [pushed, shorter, notEmpty]

/-- A character that opens a plain scalar is the first of no other token. -/
theorem pushNext?_opener {scan : Scan} {first : Char} {rest : List Char}
    (block : scan.inFlow = false) (text : scan.cursor.rest = first :: rest)
    (opener : isOpener first) (dash : first = '-' → atBlank rest = false)
    (unmarked : scan.cursor.column = 0 → isKeyChar first) :
    scan.pushNext? = scan.pushPlain? := by
  have solid := isSolid_of_isOpener opener
  simp only [isOpener, Bool.and_eq_true, Bool.not_eq_true', List.contains_eq_mem,
    decide_eq_false_iff_not, List.mem_append, not_or] at opener
  have noIndicator := opener.2.1
  have noMark : first ≠ '?' ∧ first ≠ ':' ∧ first ≠ byteOrderMark := by simpa using opener.2.2
  have opens : startsPlain false (first :: rest) = true := by
    unfold startsPlain
    split
    · next shape => simp at shape
    · next shape =>
        injection shape with isDash same
        subst same
        simp [dash isDash]
    · next shape => simp_all
    · next shape => simp_all
    · next shape =>
        injection shape with same
        subst same
        simp [not_gap_of_isSolid solid, not_break_of_isSolid solid, noIndicator]
  have noDirective :
      (decide (scan.cursor.column = 0) && decide (scan.cursor.rest.head? = some '%')) = false := by
    have : first ≠ '%' := by
      rintro rfl
      exact noIndicator (by decide)
    simp [text, this]
  have noStart : (decide (scan.cursor.column = 0) && isStartMarker scan.cursor.rest) = false := by
    by_cases zero : scan.cursor.column = 0
    · rw [text]
      unfold isStartMarker
      split
      · next shape =>
          injection shape with isDash _
          subst isDash
          exact absurd (unmarked zero) (by decide)
      · simp
    · simp [zero]
  have noEnd : (decide (scan.cursor.column = 0) && isEndMarker scan.cursor.rest) = false := by
    by_cases zero : scan.cursor.column = 0
    · rw [text]
      unfold isEndMarker
      split
      · next shape =>
          injection shape with isDot _
          subst isDot
          exact absurd (unmarked zero) (by decide)
      · simp
    · simp [zero]
  have different : ∀ special ∈ indicators, ∀ other, scan.cursor.rest ≠ special :: other := by
    intro special isIndicator other shape
    rw [text] at shape
    injection shape with same
    exact noIndicator (same ▸ isIndicator)
  unfold pushNext?
  simp only [noDirective, noStart, noEnd, Bool.false_eq_true, if_false, block]
  split
  case h_11 =>
    rw [text]
    simp [noMark.1, noMark.2.1, opens]
  all_goals
    next shape => exact absurd shape (different _ (by decide) _)

/-- The scanner behind the key of a line. -/
def behindKey (indent : Option Nat) (settled recent : List Token) (key rest : List Char) :
    Scan :=
  ⟨⟨':' :: ' ' :: rest, key.length⟩, false, indent, false,
    some ⟨⟨key ++ ':' :: ' ' :: rest, 0⟩, indent = some 0⟩, recent ++ settled,
    [.scalar (String.ofList key)]⟩

/-- The token that opens the mapping, before its first key. -/
def opening (indent : Option Nat) : List Token :=
  if indent.isNone then [.blockStart] else []

/-- The scanner behind the colon of a line. -/
def behindColon (indent : Option Nat) (settled recent : List Token) (key rest : List Char) :
    Scan :=
  ⟨⟨' ' :: rest, key.length + 1⟩, false, some 0, false, none, recent ++ settled,
    [.value, .scalar (String.ofList key), .key] ++ opening indent⟩

variable {indent : Option Nat} {settled recent : List Token} {key rest : List Char}

theorem run?_key {scan : Scan}
    (approaches : scan.Approaches indent settled recent (key ++ ':' :: ' ' :: rest))
    (isKey : IsKey key) :
    scan.run? = (behindKey indent settled recent key rest).run? := by
  rcases List.exists_cons_of_ne_nil isKey.nonempty with ⟨first, tail, shape⟩
  have letter : isKeyChar first := isKey.letters first (by simp [shape])
  have noDash : first = '-' → atBlank (tail ++ ':' :: ' ' :: rest) = false := by
    rintro rfl
    exact absurd letter (by decide)
  refine run?_of_pushed approaches.approached ?_ (by simp [atLine, isKey.nonempty]) ?_
  · rw [pushNext?_opener rfl (by simp [atLine, shape]) (isOpener_of_isKeyChar letter) noDash
      (fun _ => letter)]
    simp [pushPlain?, atLine, readPlain?_key isKey, pushStart?, saveCandidate?, dropCandidate?,
      push, behindKey]
  · have ahead := approaches.ahead
    have positive := List.length_pos_iff.mpr isKey.nonempty
    simp only [List.length_append, List.length_cons] at ahead
    simp only [behindKey, List.length_cons]
    omega

theorem closeBefore_flat {scan : Scan} (flat : scan.indent = none ∨ scan.indent = some 0)
    (column : Nat) : scan.closeBefore column = scan := by
  rcases flat with flat | flat <;> simp [closeBefore, flat]

theorem approach?_behindKey (isKey : IsKey key) (flat : indent = none ∨ indent = some 0) :
    (behindKey indent settled recent key rest).approach? =
      some (behindKey indent settled recent key rest) := by
  have unbroken : key.any isBreak = false := by
    rw [Bool.eq_false_iff, ne_eq, List.any_eq_true]
    rintro ⟨character, present, broken⟩
    have solid := isSolid_of_isKeyChar (isKey.letters character present)
    simp [not_break_of_isSolid solid] at broken
  have gap : skipGap false false false key.length (':' :: ' ' :: rest) =
      ⟨⟨':' :: ' ' :: rest, key.length⟩, false⟩ :=
    skipGap_solid (by decide) (by decide) (by decide) false key.length
  have reached : Candidate.reaches ⟨⟨key ++ ':' :: ' ' :: rest, 0⟩, indent = some 0⟩
      ⟨':' :: ' ' :: rest, key.length⟩ = true := by
    simp [Candidate.reaches, Cursor.passedTo, isKey.short, unbroken]
  have kept : dropStale? (behindKey indent settled recent key rest) =
      some (behindKey indent settled recent key rest) := by
    simp [dropStale?, behindKey, reached]
  have flatScan : (behindKey indent settled recent key rest).indent = none ∨
      (behindKey indent settled recent key rest).indent = some 0 := flat
  calc (behindKey indent settled recent key rest).approach?
      = (dropStale? (behindKey indent settled recent key rest)).bind fun scan =>
          some (scan.closeBefore scan.cursor.column) := by
        simp only [approach?, behindKey, gap]
        rfl
    _ = some (behindKey indent settled recent key rest) := by
        rw [kept, Option.bind_some, closeBefore_flat flatScan]

theorem run?_colon (isKey : IsKey key) (flat : indent = none ∨ indent = some 0) :
    (behindKey indent settled recent key rest).run? =
      (behindColon indent settled recent key rest).run? := by
  refine run?_of_pushed (approach?_behindKey isKey flat) ?_ (by simp [behindKey]) ?_
  · have inLine : (behindKey indent settled recent key rest).cursor.column ≠ 0 := by
      simp [behindKey, isKey.nonempty]
    unfold pushNext?
    simp only [inLine, decide_false, Bool.false_and, Bool.false_eq_true, if_false]
    simp only [behindKey, atBlank, List.drop_one]
    rcases flat with rfl | rfl <;>
      simp [isGap, pushValueMark?, openAt?, push, Cursor.advance, behindColon, opening]
  · simp [behindKey, behindColon]

/-- The tokens of a line, the last one first. -/
def lineTokens (indent : Option Nat) (key value : List Char) : List Token :=
  .scalar (String.ofList value) :: .value :: .scalar (String.ofList key) :: .key :: opening indent

/-- The scanner before the value of a line. -/
def beforeValue (indent : Option Nat) (settled recent : List Token) (key rest : List Char) :
    Scan :=
  { behindColon indent settled recent key rest with cursor := ⟨rest, key.length + 2⟩ }

theorem approach?_behindColon {first : Char} (solid : isSolid first)
    (noMark : first ≠ byteOrderMark) (noComment : first ≠ '#') :
    (behindColon indent settled recent key (first :: rest)).approach? =
      some (beforeValue indent settled recent key (first :: rest)) := by
  have gap : skipGap false false false (key.length + 1) (' ' :: first :: rest) =
      ⟨⟨first :: rest, key.length + 2⟩, false⟩ := by
    rw [skipGap]
    simp only [isBreak, Char.reduceEq, decide_false, Bool.or_self, Bool.false_eq_true, if_false,
      true_or, if_true]
    exact skipGap_solid solid noMark noComment false (key.length + 2)
  simp only [approach?, behindColon, gap]
  simp [dropStale?, closeBefore, beforeValue, behindColon]

theorem approaches_atLine (begins : BeginsLine rest) (flat : indent = none ∨ indent = some 0) :
    (atLine indent settled recent rest).Approaches indent settled recent rest := by
  have gap : skipGap false false true 0 rest = ⟨⟨rest, 0⟩, true⟩ := by
    cases rest with
    | nil => rfl
    | cons first tail =>
        have letter : isKeyChar first := begins first (by simp)
        refine skipGap_solid (isSolid_of_isKeyChar letter) ?_ ?_ true 0
        · rintro rfl
          exact absurd letter (by decide)
        · rintro rfl
          exact absurd letter (by decide)
  refine ⟨?_, Nat.le_refl _⟩
  simp only [approach?, atLine, gap]
  simpa [dropStale?] using closeBefore_flat flat 0

theorem run?_plainValue {value : List Char} (isValue : IsPlainValue value)
    (begins : BeginsLine rest) :
    (behindColon indent settled recent key (value ++ '\n' :: rest)).run? =
      (atLine (some 0) (recent ++ settled) (lineTokens indent key value) rest).run? := by
  rcases isValue.opens with ⟨first, tail, shape, opener, dash⟩
  have solid := isSolid_of_isOpener opener
  have clear := isOpener_clear opener
  have noDash : first = '-' → atBlank (tail ++ '\n' :: rest) = false := by
    intro isDash
    rcases List.exists_cons_of_ne_nil (dash isDash) with ⟨next, others, isTail⟩
    rw [isTail, List.cons_append]
    exact atBlank_cons_of_isSolid (isValue.solid next (by simp [shape, isTail]))
  have approached : (behindColon indent settled recent key (value ++ '\n' :: rest)).approach? =
      some (beforeValue indent settled recent key (value ++ '\n' :: rest)) := by
    rw [shape, List.cons_append]
    exact approach?_behindColon solid (clear _ (by decide)) (clear _ (by decide))
  refine run?_of_pushed approached ?_ (by simp [beforeValue]) ?_
  · rw [pushNext?_opener rfl (by simp [beforeValue, shape]) opener noDash
      (by simp [beforeValue])]
    simp [pushPlain?, beforeValue, behindColon, readPlain?_value isValue begins, pushStart?,
      saveCandidate?, push, atLine, lineTokens]
  · simp [behindColon, atLine]
    omega

theorem run?_quotedValue {value : List Char} (isValue : IsQuotedValue value)
    (begins : BeginsLine rest) :
    ∃ next : Scan,
      next.Approaches (some 0) (recent ++ settled) (lineTokens indent key value) rest ∧
      (behindColon indent settled recent key ('\'' :: value ++ '\'' :: '\n' :: rest)).run? =
        next.run? := by
  refine ⟨⟨⟨'\n' :: rest, key.length + 3 + value.length + 1⟩, false, some 0, false, none,
    recent ++ settled, lineTokens indent key value⟩, ⟨?_, by simp⟩, ?_⟩
  · -- The line break is passed as if the scanner stood behind it.
    have next : (atLine (some 0) (recent ++ settled) (lineTokens indent key value)
        rest).Approaches (some 0) (recent ++ settled) (lineTokens indent key value) rest :=
      approaches_atLine begins (Or.inr rfl)
    rw [← next.approached]
    simp [approach?, atLine, skipGap, isBreak]
  · have approached : (behindColon indent settled recent key
        ('\'' :: value ++ '\'' :: '\n' :: rest)).approach? =
        some (beforeValue indent settled recent key ('\'' :: value ++ '\'' :: '\n' :: rest)) :=
      approach?_behindColon (by decide) (by decide) (by decide)
    refine run?_of_pushed approached ?_ (by simp [beforeValue]) ?_
    · have inLine : (beforeValue indent settled recent key
          ('\'' :: value ++ '\'' :: '\n' :: rest)).cursor.column ≠ 0 := by
        simp [beforeValue]
      unfold pushNext?
      simp only [inLine, decide_false, Bool.false_and, Bool.false_eq_true, if_false]
      simp [beforeValue, behindColon, readSingle?_value isValue, pushStart?, saveCandidate?, push,
        lineTokens]
    · simp [behindColon]
      omega

theorem run?_line {scan : Scan} {value written : List Char}
    (approaches :
      scan.Approaches indent settled recent (key ++ ':' :: ' ' :: written ++ '\n' :: rest))
    (isKey : IsKey key) (isWritten : IsWritten value written) (begins : BeginsLine rest)
    (flat : indent = none ∨ indent = some 0) :
    ∃ next : Scan,
      next.Approaches (some 0) (recent ++ settled) (lineTokens indent key value) rest ∧
      scan.run? = next.run? := by
  rw [List.append_assoc, List.cons_append, List.cons_append] at approaches
  rw [run?_key approaches isKey, run?_colon isKey flat]
  cases isWritten with
  | plain isValue =>
      exact ⟨_, approaches_atLine begins (Or.inr rfl), run?_plainValue isValue begins⟩
  | quoted isValue =>
      rw [List.append_assoc, List.singleton_append]
      exact run?_quotedValue isValue begins

theorem run?_end {scan : Scan} (approaches : scan.Approaches (some 0) settled recent []) :
    scan.run? = some ((.blockEnd :: recent ++ settled).reverse) := by
  rw [run?, approaches.approached]
  simp [atLine, finish?, close, dropCandidate?, tokens]

end Scan

end MemoryKeeper.Yaml

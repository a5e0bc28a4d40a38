import MemoryKeeper.Json.Printer
import MemoryKeeper.Json.Reader
import MemoryKeeper.Proofs.Numerals
import Mathlib.Data.List.Forall2

/-!
# Printed data reads back

Both layouts of a value consist of the same lexemes, with blanks between them in
the pretty one, and from these lexemes the reader builds the value again. Only a
double that is not finite is lost, since it is printed as null. Integers must fit
into 64 bits, and doubles be in their kept form, as all are that a program can
have.

A word ends before any character that is no part of words. So what a text is
split into does not depend on what follows, as long as that begins with such a
character; and in printed data a word is always followed by a comma, a bracket or
a line break.
-/

namespace MemoryKeeper.Json

mutual

/-- A value as it is printed: without doubles that are not finite. -/
def asPrinted : Json → Json
  | .double value => if value.isFinite then .double value else .null
  | .array items => .array (asPrintedItems items)
  | .object members => .object (asPrintedMembers members)
  | value => value

def asPrintedItems : List Json → List Json
  | [] => []
  | item :: rest => asPrinted item :: asPrintedItems rest

def asPrintedMembers : List (String × Json) → List (String × Json)
  | [] => []
  | (name, value) :: rest => (name, asPrinted value) :: asPrintedMembers rest

end

/-- Whether a value is neither an array nor an object, and has 64 bits, signed or unsigned, if it is
an integer and the kept form if it is a finite double. -/
def IsScalar : Json → Prop
  | .integer value => -9223372036854775808 ≤ value ∧ value ≤ 18446744073709551615
  | .double (.finite _ significand power) => Double.IsCanonical significand power
  | .array _ => False
  | .object _ => False
  | _ => True

/-- Whether the integers and doubles in a value are ones that a program can have. -/
inductive Fits : Json → Prop where
  | scalar {value : Json} (isScalar : value.IsScalar) : Fits value
  | array {items : List Json} (each : ∀ item ∈ items, Fits item) : Fits (.array items)
  | object {members : List (String × Json)} (each : ∀ member ∈ members, Fits member.2) :
      Fits (.object members)

/-- Lexemes with commas between them. -/
def joinLexemes : List (List Lexeme) → List Lexeme
  | [] => []
  | [piece] => piece
  | piece :: rest => piece ++ .comma :: joinLexemes rest

mutual

/-- The lexemes of a printed value. -/
def lexemes : Json → List Lexeme
  | .array items => .openArray :: joinLexemes (itemLexemes items) ++ [.closeArray]
  | .object members => .openObject :: joinLexemes (memberLexemes members) ++ [.closeObject]
  | value => [.scalar (asPrinted value)]

def itemLexemes : List Json → List (List Lexeme)
  | [] => []
  | item :: rest => lexemes item :: itemLexemes rest

def memberLexemes : List (String × Json) → List (List Lexeme)
  | [] => []
  | (name, value) :: rest =>
    (.scalar (.string name) :: .colon :: lexemes value) :: memberLexemes rest

end

section Strings

variable {rest : List Char}

theorem hexValue?_hexDigit (value : ℕ) : hexValue? (hexDigit value) = some (value % 16) := by
  have each : ∀ digit < 16, hexValue? (Nat.digitChar digit) = some digit := by decide
  exact each (value % 16) (by omega)

/-- An escaped character is read as the character. -/
theorem readString?_escapeChar (character : Char) (rest : List Char) :
    readString? (escapeChar character ++ rest) =
      (readString? rest).map fun (text, after) => (character :: text, after) := by
  unfold escapeChar
  split
  · rfl
  · rfl
  · rfl
  · rfl
  · rfl
  · rfl
  · rfl
  · next noQuote noBackslash _ _ _ _ _ =>
      split_ifs with control
      · have unit : codeUnit? '0' '0' (hexDigit (character.toNat / 16)) (hexDigit character.toNat) =
            some character.toNat := by
          have zero : hexValue? '0' = some 0 := rfl
          simp only [codeUnit?, zero, hexValue?_hexDigit, Option.bind_eq_bind, Option.bind_some,
            Option.pure_def, Option.some.injEq]
          omega
        have noSurrogate : ¬(0xDC00 ≤ character.toNat ∧ character.toNat ≤ 0xDFFF) := by omega
        have noHighSurrogate : ¬(0xD800 ≤ character.toNat ∧ character.toNat ≤ 0xDBFF) := by omega
        rw [List.cons_append, List.cons_append, List.cons_append, List.cons_append,
          List.cons_append, List.cons_append, List.nil_append, readString?]
        simp only [unit, noSurrogate, noHighSurrogate, if_false, Char.ofNat_toNat]
      · rw [List.singleton_append, readString?.eq_def]
        split <;> simp_all

theorem readString?_flatMap_escapeChar (text rest : List Char) :
    readString? (text.flatMap escapeChar ++ '"' :: rest) = some (text, rest) := by
  induction text with
  | nil => rfl
  | cons character text ih =>
      rw [List.flatMap_cons, List.append_assoc, readString?_escapeChar, ih]
      rfl

end Strings

section Numbers

variable (numeral : Numeral)

/-- Whether a word has the shape of a number without a sign. -/
def isUnsignedNumeral (unsigned : List Char) : Bool :=
  isWholePart (unsigned.takeWhile Char.isDigit) &&
    match unsigned.dropWhile Char.isDigit with
    | '.' :: digit :: _ => digit.isDigit
    | '.' :: _ => false
    | _ => true

theorem isNumeral_hyphen (unsigned : List Char) :
    isNumeral ('-' :: unsigned) = isUnsignedNumeral unsigned :=
  rfl

theorem isNumeral_digit {digit : Char} (isDigit : digit.isDigit) (rest : List Char) :
    isNumeral (digit :: rest) = isUnsignedNumeral (digit :: rest) := by
  have noHyphen : digit ≠ '-' := by
    rintro rfl
    cases isDigit
  unfold isNumeral
  split
  · next same =>
      cases same
      contradiction
  · rfl

theorem isUnsignedNumeral_whole : isUnsignedNumeral (numeral.whole ++ numeral.behind) := by
  have taken := Timestamp.takeWhile_digits_append numeral.isDigit_whole numeral.endsDigits_behind
  have dropped := Timestamp.dropWhile_digits_append numeral.isDigit_whole numeral.endsDigits_behind
  rw [isUnsignedNumeral, taken, dropped, numeral.isWholePart_whole, Bool.true_and,
    Numeral.behind.eq_def]
  split_ifs with noFraction
  · rcases numeral.tail_cases with nothing | ⟨mark, rest, tail, rfl | rfl⟩ <;> simp [*]
  · rcases List.exists_cons_of_ne_nil noFraction with ⟨first, others, fraction⟩
    have isFirst : first.isDigit := numeral.isDigit_fraction first (by simp [fraction])
    simpa [fraction] using isFirst

/-- A numeral begins with a hyphen or with a digit. -/
theorem text_cases : numeral.text = '-' :: (numeral.whole ++ numeral.behind) ∨
    ∃ digit rest, digit.isDigit ∧ numeral.text = digit :: rest ∧
      numeral.whole ++ numeral.behind = digit :: rest := by
  rcases List.exists_cons_of_ne_nil numeral.whole_ne_nil with ⟨digit, rest, shape⟩
  rw [Numeral.text]
  cases numeral.negative with
  | true => exact .inl rfl
  | false =>
      refine .inr ⟨digit, rest ++ numeral.behind, numeral.isDigit_whole digit (by simp [shape]),
        ?_, ?_⟩ <;> simp [shape]

theorem isNumeral_text : isNumeral numeral.text := by
  have unsigned := isUnsignedNumeral_whole numeral
  rcases text_cases numeral with negative | ⟨digit, rest, isDigit, written, shape⟩
  · rwa [negative, isNumeral_hyphen]
  · rwa [written, isNumeral_digit isDigit, ← shape]

theorem isWordChar_of_isDigit {character : Char} (digit : character.isDigit) :
    isWordChar character := by
  simp [isWordChar, Char.isAlphanum, digit]

theorem mem_takeSign {character : Char} {text : List Char} (present : character ∈ text) :
    character = '-' ∨ character = '+' ∨ character ∈ (Decimal.takeSign text).2 := by
  unfold Decimal.takeSign
  split
  · rcases List.mem_cons.mp present with rfl | later
    · exact .inl rfl
    · exact .inr (.inr later)
  · rcases List.mem_cons.mp present with rfl | later
    · exact .inr (.inl rfl)
    · exact .inr (.inr later)
  · exact .inr (.inr present)

theorem isWordChar_of_mem_tail {character : Char} (present : character ∈ numeral.tail) :
    isWordChar character := by
  have read := numeral.readExponent?_tail
  rcases numeral.tail_cases with nothing | ⟨mark, rest, shape, isMark⟩
  · simp [nothing] at present
  · have inWord : isWordChar mark := by
      rcases isMark with rfl | rfl <;> decide
    have areDigits : ∀ digit ∈ (Decimal.takeSign rest).2, digit.isDigit := by
      by_contra notAll
      have refused : (Decimal.takeSign rest).2.all Char.isDigit = false := by
        simpa using notAll
      simp [shape, Decimal.readExponent?, isMark, refused] at read
    rw [shape, List.mem_cons] at present
    rcases present with rfl | later
    · exact inWord
    · rcases mem_takeSign later with rfl | rfl | digit
      · decide
      · decide
      · exact isWordChar_of_isDigit (areDigits character digit)

theorem isWordChar_of_mem_text {character : Char} (present : character ∈ numeral.text) :
    isWordChar character := by
  rw [Numeral.text, Numeral.behind.eq_def] at present
  simp only [List.mem_append] at present
  rcases present with (sign | whole) | fraction | tail
  · split_ifs at sign
    · rw [List.mem_singleton.mp sign]
      decide
    · cases sign
  · exact isWordChar_of_isDigit (numeral.isDigit_whole character whole)
  · split_ifs at fraction
    · cases fraction
    · rcases List.mem_cons.mp fraction with rfl | digit
      · decide
      · exact isWordChar_of_isDigit (numeral.isDigit_fraction character digit)
  · exact isWordChar_of_mem_tail numeral tail

theorem readInteger?_text (more : numeral.behind ≠ []) : readInteger? numeral.text = none := by
  have notAll : (numeral.whole ++ numeral.behind).all Char.isDigit = false := by
    rcases List.exists_cons_of_ne_nil more with ⟨character, rest, shape⟩
    have noDigit := numeral.endsDigits_behind character (by simp [shape])
    rw [List.all_append, shape]
    simp [noDigit]
  simp [readInteger?, numeral.takeSign_text, notAll]

theorem readWord?_text : readWord? .nearest numeral.text = readNumber? .nearest numeral.text := by
  have noConstant : ∀ word ∈ ["null", "true", "false"], numeral.text ≠ word.toList := by
    intro word isConstant same
    have initial : ∀ word ∈ ["null", "true", "false"], ∀ character ∈ word.toList.head?,
        character ≠ '-' ∧ character.isDigit = false := by simp
    rcases text_cases numeral with negative | ⟨digit, rest, isDigit, written, -⟩
    · exact (initial word isConstant '-' (by simp [← same, negative])).1 rfl
    · have noDigit := (initial word isConstant digit (by simp [← same, written])).2
      rw [noDigit] at isDigit
      cases isDigit
  rw [readWord?, if_neg (noConstant "null" (by simp)), if_neg (noConstant "true" (by simp)),
    if_neg (noConstant "false" (by simp))]

theorem readWord?_integerText {value : ℤ} (lower : -9223372036854775808 ≤ value)
    (upper : value ≤ 18446744073709551615) :
    readWord? .nearest (integerText value) = some (.integer value) := by
  rcases exists_numeral_integerText value with ⟨numeral, written, -, -⟩
  have noMinusZero : integerText value ≠ ['-', '0'] := by
    intro isMinusZero
    have read := readInteger?_integerText value
    rw [isMinusZero] at read
    cases read
    cases isMinusZero
  have range : -(Nat.pow 2 63 : ℤ) ≤ value ∧ value < Nat.pow 2 64 := by
    simp
    omega
  have isNumber := isNumeral_text numeral
  have read := readInteger?_integerText value
  rw [written, readWord?_text, readNumber?, ← written, read]
  rw [← written] at isNumber
  simp only [isNumber, noMinusZero, range, ne_eq, not_false_eq_true, and_self, if_true,
    Bool.not_true, Bool.false_eq_true, if_false]

theorem exists_word_dataText (negative : Bool) {significand : ℕ} {power : ℤ}
    (canonical : Double.IsCanonical significand power) :
    ∃ numeral : Numeral,
      (Double.finite negative significand power).dataText? = some numeral.text ∧
      readWord? .nearest numeral.text = some (.double (.finite negative significand power)) := by
  rcases Double.exists_numeral_dataText negative canonical with
    ⟨text, numeral, written, writes, more⟩
  have behind : numeral.behind ≠ [] := by
    rw [Numeral.behind.eq_def]
    rcases more with fraction | tail
    · simp [fraction]
    · simp [tail]
  refine ⟨numeral, by rw [written, writes.text_eq], ?_⟩
  have read := writes.ofNumeral?
  rw [writes.text_eq, Double.ofDecimal_shortestOf canonical] at read
  rw [readWord?_text, readNumber?, isNumeral_text, readInteger?_text numeral behind]
  simp [readDouble?, Reading.double?, read, Double.isFinite]

end Numbers

/-- Whether no word goes on at the start of a text. -/
def EndsWord (text : List Char) : Prop :=
  ∀ character ∈ text.head?, isWordChar character = false

/-- Whether a text is split into certain lexemes, whatever follows it that goes on with no word. -/
def Lexes (text : List Char) (pieces : List Lexeme) : Prop :=
  ∀ after, EndsWord after →
    lexemes? .nearest (text ++ after) = (lexemes? .nearest after).map (pieces ++ ·)

/-- The characters that are lexemes by themselves. -/
def punctuation? : Char → Option Lexeme
  | '[' => some .openArray
  | ']' => some .closeArray
  | '\x7b' => some .openObject
  | '\x7d' => some .closeObject
  | ',' => some .comma
  | ':' => some .colon
  | _ => none

section Lexes

variable {character : Char} {text other : List Char} {lexeme : Lexeme} {pieces others : List Lexeme}

theorem lexemes?_punctuation (isLexeme : punctuation? character = some lexeme) (rest : List Char) :
    lexemes? .nearest (character :: rest) =
      (lexemes? .nearest rest).map (lexeme :: ·) := by
  rw [lexemes?.eq_def]
  unfold punctuation? at isLexeme
  split at isLexeme <;> cases isLexeme <;> rfl

theorem lexemes?_blank (blank : character = ' ' ∨ character = '\n') (rest : List Char) :
    lexemes? .nearest (character :: rest) = lexemes? .nearest rest := by
  rw [lexemes?.eq_def]
  rcases blank with rfl | rfl <;> rfl

theorem lexemes?_quoted (name : String) (rest : List Char) :
    lexemes? .nearest (quoted name ++ rest) =
      (lexemes? .nearest rest).map (.scalar (.string name) :: ·) := by
  have shape : quoted name ++ rest = '"' :: (name.toList.flatMap escapeChar ++ '"' :: rest) := by
    simp [quoted]
  have read := readString?_flatMap_escapeChar name.toList rest
  rw [shape, lexemes?.eq_def]
  simp only
  split
  · next nothing =>
      rw [read] at nothing
      cases nothing
  · next text after found =>
      rw [read] at found
      cases found
      rw [String.ofList_toList]

theorem Lexes.nil : Lexes [] [] := by
  intro after _
  simp

theorem Lexes.append (left : Lexes text pieces) (right : Lexes other others)
    (nonempty : other ≠ []) (apart : EndsWord other) :
    Lexes (text ++ other) (pieces ++ others) := by
  intro after ends
  have apartBehind : EndsWord (other ++ after) := by
    rwa [EndsWord, List.head?_append_of_ne_nil _ nonempty]
  rw [List.append_assoc, left _ apartBehind, right after ends, Option.map_map]
  simp [Function.comp_def]

theorem isWordChar_cases (inWord : isWordChar character) :
    character ∉ ['[', ']', '\x7b', '\x7d', ',', ':', '"', ' ', '\n', '\t', '\r'] := by
  intro special
  have none : ∀ other ∈ ['[', ']', '\x7b', '\x7d', ',', ':', '"', ' ', '\n', '\t', '\r'],
      isWordChar other = false := by simp [isWordChar]
  rw [none character special] at inWord
  cases inWord

/-- A word that spells a scalar is split off whole. -/
theorem lexes_word {word : List Char} {value : Json} (nonempty : word ≠ [])
    (inWord : ∀ character ∈ word, isWordChar character)
    (spells : readWord? .nearest word = some value) :
    Lexes word [.scalar value] := by
  intro after ends
  rcases List.exists_cons_of_ne_nil nonempty with ⟨initial, rest, rfl⟩
  rw [List.forall_mem_cons] at inWord
  have stops : after.takeWhile isWordChar = [] ∧ after.dropWhile isWordChar = after := by
    cases after with
    | nil => simp
    | cons ending others => simp [ends ending rfl]
  have taken : (rest ++ after).takeWhile isWordChar = rest := by
    rw [List.takeWhile_append_of_pos inWord.2, stops.1, List.append_nil]
  have dropped : (rest ++ after).dropWhile isWordChar = after := by
    rw [List.dropWhile_append_of_pos inWord.2, stops.2]
  -- a word begins with no character that another branch of the reader is for
  have special := isWordChar_cases inWord.1
  simp only [List.mem_cons, List.not_mem_nil, or_false, not_or] at special
  rw [List.cons_append, lexemes?.eq_def]
  split
  case h_9 same =>
      cases same
      simp only [taken, dropped, spells, special, or_false, if_false]
      rfl
  all_goals simp_all

theorem Lexes.cons_punctuation (isLexeme : punctuation? character = some lexeme)
    (rest : Lexes text pieces) : Lexes (character :: text) (lexeme :: pieces) := by
  intro after ends
  rw [List.cons_append, lexemes?_punctuation isLexeme, rest after ends, Option.map_map]
  rfl

theorem Lexes.cons_blank (blank : character = ' ' ∨ character = '\n') (rest : Lexes text pieces) :
    Lexes (character :: text) pieces := by
  intro after ends
  rw [List.cons_append, lexemes?_blank blank, rest after ends]

theorem Lexes.quoted_append (name : String) (rest : Lexes text pieces) :
    Lexes (quoted name ++ text) (.scalar (.string name) :: pieces) := by
  intro after ends
  rw [List.append_assoc, lexemes?_quoted, rest after ends, Option.map_map]
  rfl

theorem endsWord_punctuation (isLexeme : punctuation? character = some lexeme) (rest : List Char) :
    EndsWord (character :: rest) := by
  intro initial isInitial
  cases isInitial
  unfold punctuation? at isLexeme
  split at isLexeme <;> first | decide | cases isLexeme

/-- A lexeme of one character may stand directly behind anything. -/
theorem Lexes.append_punctuation (isLexeme : punctuation? character = some lexeme)
    (left : Lexes text pieces) (right : Lexes other others) :
    Lexes (text ++ character :: other) (pieces ++ lexeme :: others) :=
  left.append (right.cons_punctuation isLexeme) (by simp) (endsWord_punctuation isLexeme other)

theorem Lexes.newLine_append (level : ℕ) (rest : Lexes text pieces) :
    Lexes (newLine level ++ text) pieces := by
  have indented : ∀ count, Lexes (List.replicate count ' ' ++ text) pieces := by
    intro count
    induction count with
    | zero => exact rest
    | succ count ih => exact ih.cons_blank (.inl rfl)
  exact (indented (2 * level)).cons_blank (.inr rfl)

theorem Lexes.append_newLine (level : ℕ) (left : Lexes text pieces) (right : Lexes other others) :
    Lexes (text ++ (newLine level ++ other)) (pieces ++ others) := by
  apply left.append (right.newLine_append level)
  · simp [newLine]
  · intro initial isInitial
    cases isInitial
    decide

theorem Lexes.join {texts : List (List Char)} {lists : List (List Lexeme)}
    (each : List.Forall₂ Lexes texts lists) : Lexes (joinWithCommas texts) (joinLexemes lists) := by
  induction each with
  | nil => exact Lexes.nil
  | cons first others ih =>
      cases others with
      | nil => exact first
      | cons second others => exact first.append_punctuation rfl ih

theorem lexes_scalarText {value : Json} (isScalar : value.IsScalar) :
    Lexes (scalarText value) [.scalar value.asPrinted] := by
  have nullText : Lexes "null".toList [.scalar .null] :=
    lexes_word (by decide) (by simp [isWordChar]) rfl
  cases value with
  | null => exact nullText
  | boolean value =>
      cases value with
      | false => exact lexes_word (by decide) (by simp [scalarText, isWordChar]) rfl
      | true => exact lexes_word (by decide) (by simp [scalarText, isWordChar]) rfl
  | integer value =>
      rcases exists_numeral_integerText value with ⟨numeral, written, -⟩
      have spells := readWord?_integerText isScalar.1 isScalar.2
      rw [written] at spells
      rw [scalarText, written]
      exact lexes_word numeral.text_ne_nil (fun _ => isWordChar_of_mem_text numeral) spells
  | double value =>
      cases value with
      | finite negative significand power =>
          rcases exists_word_dataText negative isScalar with
            ⟨numeral, written, spells⟩
          rw [scalarText, written]
          exact lexes_word numeral.text_ne_nil (fun _ => isWordChar_of_mem_text numeral) spells
      | infinite negative => exact nullText
      | undefined => exact nullText
  | string text =>
      have quotedText := Lexes.nil.quoted_append text
      rwa [List.append_nil] at quotedText
  | array items => cases isScalar
  | object members => cases isScalar

end Lexes

section Layouts

variable {value : Json}

theorem lexemes_of_isScalar (isScalar : value.IsScalar) :
    lexemes value = [.scalar value.asPrinted] := by
  cases value <;> first | rfl | cases isScalar

theorem compactChars_of_isScalar (isScalar : value.IsScalar) :
    compactChars value = scalarText value := by
  cases value <;> first | rfl | cases isScalar

theorem prettyChars_of_isScalar (isScalar : value.IsScalar) (level : ℕ) :
    prettyChars level value = scalarText value := by
  cases value <;> first | rfl | cases isScalar

theorem lexes_compactItems {items : List Json}
    (each : ∀ item ∈ items, Lexes (compactChars item) (lexemes item)) :
    List.Forall₂ Lexes (compactItems items) (itemLexemes items) := by
  induction items with
  | nil => exact .nil
  | cons item items ih =>
      rw [List.forall_mem_cons] at each
      exact .cons each.1 (ih each.2)

theorem lexes_compactMembers {members : List (String × Json)}
    (each : ∀ member ∈ members, Lexes (compactChars member.2) (lexemes member.2)) :
    List.Forall₂ Lexes (compactMembers members) (memberLexemes members) := by
  induction members with
  | nil => exact .nil
  | cons member members ih =>
      rw [List.forall_mem_cons] at each
      exact .cons ((each.1.cons_punctuation rfl).quoted_append member.1) (ih each.2)

theorem lexes_compactChars (fits : value.Fits) : Lexes (compactChars value) (lexemes value) := by
  induction fits with
  | scalar isScalar =>
      rw [compactChars_of_isScalar isScalar, lexemes_of_isScalar isScalar]
      exact lexes_scalarText isScalar
  | array each ih =>
      rw [compactChars, lexemes]
      exact ((Lexes.join (lexes_compactItems ih)).append_punctuation rfl .nil).cons_punctuation rfl
  | object each ih =>
      rw [compactChars, lexemes]
      have members := Lexes.join (lexes_compactMembers ih)
      exact (members.append_punctuation rfl .nil).cons_punctuation rfl

/-- Pieces in a block are on lines of their own, which makes no difference to their lexemes. -/
theorem lexes_block {opening closing : Char} {opens closes : Lexeme} {level : ℕ}
    {texts : List (List Char)} {lists : List (List Lexeme)}
    (isOpening : punctuation? opening = some opens)
    (isClosing : punctuation? closing = some closes) (each : List.Forall₂ Lexes texts lists) :
    Lexes (block opening closing level texts) (opens :: joinLexemes lists ++ [closes]) := by
  have closed : Lexes [closing] [closes] := Lexes.nil.cons_punctuation isClosing
  cases texts with
  | nil =>
      cases each
      exact closed.cons_punctuation isOpening
  | cons text texts =>
      have indented : List.Forall₂ Lexes ((text :: texts).map (newLine (level + 1) ++ ·)) lists :=
        List.forall₂_map_left_iff.mpr (each.imp fun _ _ piece => piece.newLine_append (level + 1))
      have joined := ((Lexes.join indented).append_newLine level closed).cons_punctuation isOpening
      simpa [block] using joined

theorem lexes_prettyItems {items : List Json} {level : ℕ}
    (each : ∀ item ∈ items, ∀ level, Lexes (prettyChars level item) (lexemes item)) :
    List.Forall₂ Lexes (prettyItems level items) (itemLexemes items) := by
  induction items with
  | nil => exact .nil
  | cons item items ih =>
      rw [List.forall_mem_cons] at each
      exact .cons (each.1 level) (ih each.2)

theorem lexes_prettyMembers {members : List (String × Json)} {level : ℕ}
    (each : ∀ member ∈ members, ∀ level, Lexes (prettyChars level member.2) (lexemes member.2)) :
    List.Forall₂ Lexes (prettyMembers level members) (memberLexemes members) := by
  induction members with
  | nil => exact .nil
  | cons member members ih =>
      rw [List.forall_mem_cons] at each
      have spaced := (each.1 level).cons_blank (.inl rfl)
      exact .cons ((spaced.cons_punctuation rfl).quoted_append member.1) (ih each.2)

theorem lexes_prettyChars (fits : value.Fits) (level : ℕ) :
    Lexes (prettyChars level value) (lexemes value) := by
  induction fits generalizing level with
  | scalar isScalar =>
      rw [prettyChars_of_isScalar isScalar, lexemes_of_isScalar isScalar]
      exact lexes_scalarText isScalar
  | array each ih =>
      rw [prettyChars, lexemes]
      exact lexes_block rfl rfl (lexes_prettyItems ih)
  | object each ih =>
      rw [prettyChars, lexemes]
      exact lexes_block rfl rfl (lexes_prettyMembers ih)

/-- Both layouts of a value have the lexemes of the value. -/
theorem lexemes?_render (fits : value.Fits) (layout : Layout) :
    lexemes? .nearest (render layout value).toList = some (lexemes value) := by
  have nothing : lexemes? .nearest [] = some [] := by rw [lexemes?.eq_def]
  have atEnd : EndsWord [] := by simp [EndsWord]
  cases layout with
  | compact =>
      have found := lexes_compactChars fits [] atEnd
      rw [nothing, List.append_nil] at found
      simpa [render] using found
  | pretty =>
      have found := lexes_prettyChars fits 0 [] atEnd
      rw [nothing, List.append_nil] at found
      simpa [render] using found

end Layouts

namespace State

variable {value : Json} {items : List Json} {members : List (String × Json)}

/-- Whether the lexemes of a value lead to the value in the array or object that is open. -/
def Rebuilds (value : Json) : Prop :=
  ∀ frames mayClose rest, State.run ⟨frames, .value mayClose⟩ (lexemes value ++ rest) =
    (deposit value.asPrinted frames).bind (run · rest)

theorem run_itemLexemes {item : Json} (first : Rebuilds item)
    (others : ∀ other ∈ items, Rebuilds other) (before : List Json) (frames : List Frame)
    (mayClose : Bool) (rest : List Lexeme) :
    State.run ⟨.array before :: frames, .value mayClose⟩
        (joinLexemes (itemLexemes (item :: items)) ++ .closeArray :: rest) =
      (deposit (.array (before.reverse ++ asPrintedItems (item :: items))) frames).bind
        (run · rest) := by
  induction items generalizing item before mayClose with
  | nil =>
      have last : before.reverse ++ asPrintedItems [item] =
          (item.asPrinted :: before).reverse := by
        simp [asPrintedItems]
      rw [itemLexemes, itemLexemes, joinLexemes, first, last]
      rfl
  | cons next items ih =>
      rw [List.forall_mem_cons] at others
      have shape : joinLexemes (itemLexemes (item :: next :: items)) ++ .closeArray :: rest =
          lexemes item ++ .comma :: (joinLexemes (itemLexemes (next :: items)) ++
            .closeArray :: rest) := by
        simp [itemLexemes, joinLexemes]
      have grown : before.reverse ++ asPrintedItems (item :: next :: items) =
          (item.asPrinted :: before).reverse ++ asPrintedItems (next :: items) := by
        simp [asPrintedItems]
      rw [shape, first, grown, ← ih others.1 others.2]
      rfl

/-- A member leaves its name and value in the object that is open. -/
theorem run_member {name : String} (rebuilds : Rebuilds value)
    (before : List (String × Json)) (frames : List Frame) (mayClose : Bool) (rest : List Lexeme) :
    State.run ⟨.object before :: frames, .name mayClose⟩
        (.scalar (.string name) :: .colon :: lexemes value ++ rest) =
      State.run ⟨.object ((name, value.asPrinted) :: before) :: frames, .separator⟩ rest :=
  rebuilds (.member before name :: frames) false rest

theorem run_memberLexemes {member : String × Json} (first : Rebuilds member.2)
    (others : ∀ other ∈ members, Rebuilds other.2) (before : List (String × Json))
    (frames : List Frame) (mayClose : Bool) (rest : List Lexeme) :
    State.run ⟨.object before :: frames, .name mayClose⟩
        (joinLexemes (memberLexemes (member :: members)) ++ .closeObject :: rest) =
      (deposit (.object (before.reverse ++ asPrintedMembers (member :: members))) frames).bind
        (run · rest) := by
  induction members generalizing member before mayClose with
  | nil =>
      have last : (before.reverse ++ asPrintedMembers [member]) =
          ((member.1, member.2.asPrinted) :: before).reverse := by
        simp [asPrintedMembers]
      rw [memberLexemes, memberLexemes, joinLexemes, run_member first, last]
      rfl
  | cons next members ih =>
      rw [List.forall_mem_cons] at others
      have shape : joinLexemes (memberLexemes (member :: next :: members)) ++
            .closeObject :: rest =
          .scalar (.string member.1) :: .colon :: lexemes member.2 ++
            .comma :: (joinLexemes (memberLexemes (next :: members)) ++ .closeObject :: rest) := by
        simp [memberLexemes, joinLexemes]
      have grown : before.reverse ++ asPrintedMembers (member :: next :: members) =
          ((member.1, member.2.asPrinted) :: before).reverse ++
            asPrintedMembers (next :: members) := by
        simp [asPrintedMembers]
      rw [shape, run_member first, grown, ← ih others.1 others.2]
      rfl

theorem rebuilds_of_fits (fits : value.Fits) : Rebuilds value := by
  induction fits with
  | scalar isScalar =>
      intro frames mayClose rest
      rw [lexemes_of_isScalar isScalar]
      rfl
  | @array items each ih =>
      intro frames mayClose rest
      rw [lexemes, asPrinted, List.append_assoc, List.cons_append]
      cases items with
      | nil => rfl
      | cons item items =>
          rw [List.forall_mem_cons] at ih
          exact run_itemLexemes ih.1 ih.2 [] frames true rest
  | @object members each ih =>
      intro frames mayClose rest
      rw [lexemes, asPrinted, List.append_assoc, List.cons_append]
      cases members with
      | nil => rfl
      | cons member members =>
          rw [List.forall_mem_cons] at ih
          exact run_memberLexemes ih.1 ih.2 [] frames true rest

end State

/-- What is printed of a value reads back in both layouts. -/
theorem read?_render {value : Json} (fits : value.Fits) (layout : Layout) :
    read? (render layout value) = some value.asPrinted := by
  have rebuilt := State.rebuilds_of_fits fits [] false []
  rw [List.append_nil] at rebuilt
  rw [read?, readAs?, lexemes?_render fits, Option.bind_some, ofLexemes?, rebuilt]
  rfl

end MemoryKeeper.Json

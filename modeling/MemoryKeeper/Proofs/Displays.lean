import MemoryKeeper.Command.Grammar
import MemoryKeeper.Proofs.Layouts
import MemoryKeeper.Proofs.Numerals

/-!
# Displayed expressions

A displayed expression is a text of commands again, and reading it finds as many
literals as the expression has. Words, glyphs, integers and doubles with digits
behind the point come back as they are. A double that is an integer comes back as
an integer, because it is displayed without a point, and an infinite one as a
word. In strings the two sides disagree about escapes: a display writes concealed
characters by their code points, and a scan knows letters for line feed, carriage
return and tab only and keeps the other letters as they stand.

So an expression is read back from its display exactly if its strings hold no
concealed character but those three and its doubles have a fraction.
-/

namespace MemoryKeeper

open MemoryKeeper.Text Token

namespace Text

/-- Whether a character of a string is read back from the way it is displayed. -/
def isLegible (character : Char) : Bool :=
  character = '\n' || character = '\r' || character = '\t' || !isConcealed character

/-- What a scan reads where a character of a string is displayed. -/
def rereadChar (character : Char) : List Char :=
  if isLegible character then [character]
  else if character = '\x00' then ['0']
  else 'u' :: '\x7b' :: Nat.toDigits 16 character.toNat ++ ['\x7d']

variable {character : Char} {text rest : List Char}

theorem readString_plain (plain : ∀ character ∈ text, character ≠ '"' ∧ character ≠ '\\') :
    readString (text ++ rest) = (text ++ (readString rest).1, (readString rest).2) := by
  induction text with
  | nil => rfl
  | cons character text ih =>
      rw [List.forall_mem_cons] at plain
      rw [List.cons_append, readString, ih plain.2]
      · rfl
      · exact plain.1.1
      · intro backslash
        exact absurd backslash plain.1.2
      · intro letter tail backslash
        exact absurd backslash plain.1.2

theorem exists_digitChar_of_mem_toDigits {value : ℕ} (present : character ∈ Nat.toDigits 16 value) :
    ∃ digit < 16, character = Nat.digitChar digit := by
  induction value using Nat.strongRecOn with
  | ind value ih =>
      rw [Nat.toDigits_eq_if (by decide)] at present
      split_ifs at present with small
      · exact ⟨value, small, List.mem_singleton.mp present⟩
      · rcases List.mem_append.mp present with earlier | last
        · exact ih (value / 16) (by omega) earlier
        · exact ⟨value % 16, by omega, List.mem_singleton.mp last⟩

theorem readString_quoteChar (character : Char) (rest : List Char) :
    readString (quoteChar character ++ rest) =
      (rereadChar character ++ (readString rest).1, (readString rest).2) := by
  unfold quoteChar
  split
  · rfl
  · rfl
  · rfl
  · rfl
  · rfl
  · rfl
  · next noQuote noBackslash noLineFeed noReturn noTab noNull =>
      split_ifs with concealed
      · have illegible : isLegible character = false := by
          simpa [isLegible, concealed] using ⟨⟨noLineFeed, noReturn⟩, noTab⟩
        have plain : ∀ other ∈ '{' :: Nat.toDigits 16 character.toNat ++ ['}'],
            other ≠ '"' ∧ other ≠ '\\' := by
          intro other present
          simp only [List.cons_append, List.mem_cons, List.mem_append, List.not_mem_nil, or_false]
            at present
          rcases present with rfl | digit | rfl
          · decide
          · rcases exists_digitChar_of_mem_toDigits digit with ⟨value, small, rfl⟩
            have others : ∀ value < 16, Nat.digitChar value ≠ '"' ∧
                Nat.digitChar value ≠ '\\' := by decide
            exact others value small
          · decide
        -- a scan keeps the letter of an escape that it does not know, here the u
        have escaped (after : List Char) : readString ('\\' :: 'u' :: after) =
            ('u' :: (readString after).1, (readString after).2) := rfl
        have shape : ['\\', 'u', '\x7b'] ++ Nat.toDigits 16 character.toNat ++ ['\x7d'] ++ rest =
            '\\' :: 'u' :: ('\x7b' :: Nat.toDigits 16 character.toNat ++ ['\x7d'] ++ rest) := by
          simp
        rw [rereadChar, if_neg (by simp [illegible]), if_neg noNull, shape, escaped,
          readString_plain plain]
        rfl
      · have legible : isLegible character := by
          simp [isLegible, concealed]
        rw [rereadChar, if_pos legible]
        have plain : ∀ other ∈ [character], other ≠ '"' ∧ other ≠ '\\' := by
          simpa using ⟨noQuote, noBackslash⟩
        exact readString_plain plain

theorem readString_flatMap_quoteChar (text rest : List Char) :
    readString (text.flatMap quoteChar ++ '"' :: rest) = (text.flatMap rereadChar, rest) := by
  induction text with
  | nil => rfl
  | cons character text ih =>
      rw [List.flatMap_cons, List.append_assoc, readString_quoteChar, ih, List.flatMap_cons]

theorem rereadChar_ne_nil (character : Char) : rereadChar character ≠ [] := by
  rw [rereadChar]
  split_ifs <;> simp

theorem length_le_flatMap_rereadChar (text : List Char) :
    text.length ≤ (text.flatMap rereadChar).length := by
  induction text with
  | nil => simp
  | cons character text ih =>
      have shown := List.length_pos_of_ne_nil (rereadChar_ne_nil character)
      rw [List.flatMap_cons, List.length_append, List.length_cons]
      omega

/-- A text is read back from its display exactly if all its characters are. -/
theorem flatMap_rereadChar_eq_self_iff (text : List Char) :
    text.flatMap rereadChar = text ↔ ∀ character ∈ text, isLegible character := by
  induction text with
  | nil => simp
  | cons character text ih =>
      rw [List.forall_mem_cons, ← ih, List.flatMap_cons, rereadChar]
      split_ifs with legible isNull
      · simp [legible]
      · have different : '0' ≠ character := by simp [isNull]
        simp [different, legible]
      · have notShorter := length_le_flatMap_rereadChar text
        constructor
        · intro same
          have lengths := congrArg List.length same
          simp only [List.length_append, List.length_cons] at lengths
          omega
        · rintro ⟨isLegible, -⟩
          contradiction

/-- A blank of no width becomes eight characters. -/
example : "a\u200b".toList.flatMap rereadChar = "au\x7b200b\x7d".toList := by decide

end Text

/-- A numeral without a power of ten is what a scan takes for a number. -/
theorem Numeral.isScannable {numeral : Numeral} (noTail : numeral.tail = []) :
    (Token.number (String.ofList numeral.text)).IsScannable := by
  rcases List.exists_cons_of_ne_nil numeral.whole_ne_nil with ⟨digit, rest, shape⟩
  have areDigits := numeral.isDigit_whole
  rw [shape, List.forall_mem_cons] at areDigits
  have continued : ∀ character ∈ rest ++ numeral.behind, continuesNumber character := by
    intro character present
    rw [behind, noTail, List.append_nil, List.mem_append] at present
    rw [continuesNumber, Bool.or_eq_true, decide_eq_true_eq]
    rcases present with whole | later
    · exact .inl (areDigits.2 character whole)
    · split_ifs at later
      · cases later
      · rcases List.mem_cons.mp later with rfl | fraction
        · exact .inr rfl
        · exact .inl (numeral.isDigit_fraction character fraction)
  rw [IsScannable, String.toList_ofList, text, shape]
  cases numeral.negative with
  | false =>
      refine ⟨digit, rest ++ numeral.behind, rfl, ?_, List.all_eq_true.mpr continued⟩
      simp [startsNumber, areDigits.1]
  | true =>
      refine ⟨'-', digit :: (rest ++ numeral.behind), rfl, ?_, ?_⟩
      · simp [startsNumber, areDigits.1]
      · rw [List.all_cons, Bool.and_eq_true]
        exact ⟨by simp [continuesNumber, areDigits.1], List.all_eq_true.mpr continued⟩

theorem Numeral.point_mem_text {numeral : Numeral} (noTail : numeral.tail = []) :
    '.' ∈ numeral.text ↔ numeral.fraction ≠ [] := by
  have notInWhole : '.' ∉ numeral.whole := by
    intro present
    cases numeral.isDigit_whole '.' present
  rw [text, behind, noTail]
  split_ifs <;> simp [*]

namespace Number

/-- Only a text with a point is read as a double, and only one without as an integer. -/
theorem read?_of_point {text : String} (point : '.' ∈ text.toList) :
    read? text = (Double.ofNumeral? text.toList).map .double := by
  simp [read?, point]

theorem read?_ne_double_of_no_point {text : String} (noPoint : '.' ∉ text.toList)
    (value : Double) : read? text ≠ some (.double value) := by
  rw [read?, if_neg (by simpa using noPoint)]
  split
  · split_ifs <;> simp
  · simp

theorem read?_display_integer {value : ℤ} (lower : -9223372036854775808 ≤ value)
    (upper : value ≤ 9223372036854775807) :
    read? (Number.integer value).display = some (.integer value) := by
  rcases Json.exists_numeral_integerText value with ⟨numeral, written, noFraction, noTail⟩
  have noPoint : '.' ∉ Json.integerText value := by
    rw [written, numeral.point_mem_text noTail]
    simp [noFraction]
  have spelled := readInteger?_eq_some_iff.mp (Json.readInteger?_integerText value)
  rw [← Token.denotes_number_iff]
  exact .integer (by simpa [display] using noPoint) (by simpa [display] using spelled) lower upper

theorem read?_display_double (negative : Bool) {significand : ℕ} {power : ℤ}
    (canonical : Double.IsCanonical significand power) :
    read? (Number.double (.finite negative significand power)).display =
        some (.double (.finite negative significand power)) ↔
      Double.isFractional (.finite negative significand power) := by
  rcases Double.exists_numeral_plainText negative canonical with
    ⟨numeral, writes, noTail, fraction⟩
  have point : '.' ∈ (Double.finite negative significand power).plainText ↔
      Double.isFractional (.finite negative significand power) := by
    rw [writes.text_eq, numeral.point_mem_text noTail, ne_eq, fraction, not_not]
  rw [← point, display]
  constructor
  · intro read
    by_contra noPoint
    exact read?_ne_double_of_no_point (by simpa using noPoint) _ read
  · intro isPoint
    rw [read?_of_point (by simpa using isPoint), String.toList_ofList, writes.ofNumeral?,
      Double.ofDecimal_shortestOf canonical]
    rfl

end Number

namespace Literal

/-- Whether a literal is read back from its display. -/
def isLegible : Literal → Bool
  | .string text => text.toList.all Text.isLegible
  | .number (.double value) => value.isFractional
  | _ => true

/-- The token that a scan finds where a literal is displayed. -/
def shown : Literal → Token
  | .string text => .string (String.ofList (text.toList.flatMap rereadChar))
  | .number (.integer value) => .number (Number.integer value).display
  | .number (.double value) =>
    if value.isFinite then .number (Number.double value).display
    else .word (Number.double value).display
  | .glyph text => .glyph text
  | .word text => .word text

/-- Whether a literal is one that a line can hold. -/
def IsReadable (literal : Literal) : Prop :=
  ∃ token : Token, token.IsScannable ∧ token.literal? = some literal

variable {literal : Literal} {after : List Char}

theorem isReadable_glyph {text : String} :
    (Literal.glyph text).IsReadable → (Token.glyph text).IsScannable := by
  rintro ⟨token, scannable, stands⟩
  cases token <;> simp_all [Token.literal?]

theorem isReadable_word {text : String} :
    (Literal.word text).IsReadable → (Token.word text).IsScannable := by
  rintro ⟨token, scannable, stands⟩
  cases token <;> simp_all [Token.literal?]

theorem bounds_of_isReadable {value : ℤ} :
    (Literal.number (.integer value)).IsReadable →
      -9223372036854775808 ≤ value ∧ value ≤ 9223372036854775807 := by
  rintro ⟨token, -, stands⟩
  cases Token.denotes_iff.mpr stands with
  | integer noPoint spelled lower upper => exact ⟨lower, upper⟩

theorem isCanonical_of_isReadable {negative : Bool} {significand : ℕ} {power : ℤ} :
    (Literal.number (.double (.finite negative significand power))).IsReadable →
      Double.IsCanonical significand power := by
  rintro ⟨token, -, stands⟩
  cases Token.denotes_iff.mpr stands with
  | double point parsed =>
      rcases Option.map_eq_some_iff.mp parsed with ⟨decimal, -, found⟩
      exact (Double.isCanonical_of_ofDecimal found).2

/-- A literal that is no string is displayed as its token is spelled. -/
theorem toList_display (noString : literal.string? = none) :
    literal.display.toList = literal.shown.spell := by
  cases literal with
  | string text => cases noString
  | glyph text => rfl
  | word text => rfl
  | number value =>
      cases value with
      | integer value => rfl
      | double value =>
          rw [shown]
          split_ifs <;> rfl

theorem isScannable_shown (readable : literal.IsReadable) : literal.shown.IsScannable := by
  cases literal with
  | string text => trivial
  | glyph text => exact isReadable_glyph readable
  | word text => exact isReadable_word readable
  | number value =>
      cases value with
      | integer value =>
          rcases Json.exists_numeral_integerText value with ⟨numeral, written, -, noTail⟩
          have scannable := numeral.isScannable noTail
          rwa [← written] at scannable
      | double value =>
          cases value with
          | finite negative significand power =>
              rcases Double.exists_numeral_plainText negative
                (isCanonical_of_isReadable readable) with ⟨numeral, writes, noTail, -⟩
              have scannable := numeral.isScannable noTail
              rwa [← writes.text_eq] at scannable
          | infinite negative =>
              cases negative with
              | false => exact ⟨'i', ['n', 'f'], rfl, by decide, by decide, by decide⟩
              | true => exact ⟨'-', ['i', 'n', 'f'], rfl, by decide, by decide, by decide⟩
          | undefined => exact ⟨'N', ['a', 'N'], rfl, by decide, by decide, by decide⟩

/-- A displayed literal is found again as one token if what follows it ends words. -/
theorem scan_display (readable : literal.IsReadable) (apart : after.head?.all endsWord) :
    scan (literal.display.toList ++ after) = literal.shown :: scan after := by
  cases noString : literal.string? with
  | none =>
      rw [toList_display noString]
      exact scan_spell apart (isScannable_shown readable)
  | some text =>
      cases literal with
      | string text =>
          have read := readString_flatMap_quoteChar text.toList after
          have shape : (Literal.string text).display.toList ++ after =
              '"' :: (text.toList.flatMap quoteChar ++ '"' :: after) := by
            simp [display, quote]
          rw [shape, scan_first (by decide)]
          simp [first, read, shown]
      | _ => cases noString

theorem display_bounded (readable : literal.IsReadable) :
    (∀ character ∈ literal.display.toList.head?, isBlank character = false) ∧
      ∀ character ∈ literal.display.toList.getLast?, isBlank character = false := by
  cases noString : literal.string? with
  | none =>
      rw [toList_display noString]
      exact (spell_bounded (isScannable_shown readable)).2
  | some text =>
      cases literal with
      | string text =>
          have noBlank : isBlank '"' = false := by decide
          simp [display, quote, List.getLast?_cons, noBlank]
      | _ => cases noString

/-- What is displayed stands for the literal again exactly if the literal is legible. -/
theorem literal?_shown_eq_some_iff (readable : literal.IsReadable) :
    literal.shown.literal? = some literal ↔ literal.isLegible := by
  cases literal with
  | string text =>
      have same := flatMap_rereadChar_eq_self_iff text.toList
      simp only [shown, Token.literal?, isLegible, Option.some.injEq, Literal.string.injEq,
        List.all_eq_true, ← same, ← String.toList_inj, String.toList_ofList]
  | glyph text => simp [shown, Token.literal?, isLegible]
  | word text => simp [shown, Token.literal?, isLegible]
  | number value =>
      cases value with
      | integer value =>
          rcases bounds_of_isReadable readable with ⟨lower, upper⟩
          simp [shown, Token.literal?, isLegible, Number.read?_display_integer lower upper]
      | double value =>
          cases value with
          | finite negative significand power =>
              have read := Number.read?_display_double negative
                (isCanonical_of_isReadable readable)
              simpa [shown, Token.literal?, isLegible, Double.isFinite] using read
          | infinite negative => simp [shown, Token.literal?, isLegible, Double.isFinite,
              Double.isFractional]
          | undefined => simp [shown, Token.literal?, isLegible, Double.isFinite,
              Double.isFractional]

end Literal

namespace Expression

/-- Whether an expression is read back from its display. -/
def isLegible : Expression → Bool
  | .literal value => value.isLegible
  | .call _ arguments => arguments.all Literal.isLegible

/-- The tokens that a scan finds in a displayed expression. -/
def shown : Expression → List Token
  | .literal value => [value.shown]
  | .call operation arguments =>
    .openParen :: .word operation :: arguments.map Literal.shown ++ [.closeParen]

/-- Whether an expression is one that a line can hold. -/
def IsReadable : Expression → Prop
  | .literal value => value.IsReadable
  | .call operation arguments =>
    (Token.word operation).IsScannable ∧ ∀ argument ∈ arguments, argument.IsReadable

variable {expression : Expression} {line : String} {arguments : List Literal}

theorem isReadable_of_read (read : Expression.read line = .ok expression) :
    expression.IsReadable := by
  have scannable : ∀ token ∈ Token.tokenize line, token.IsScannable := fun token found =>
    isScannable_of_mem_scan found
  rcases ofTokens_eq_ok_iff.mp read with ⟨token, value, tokens, stands, rfl⟩ |
    ⟨operation, front, arguments, tokens, stand, rfl⟩
  · exact ⟨token, scannable token (by simp [tokens]), stands⟩
  · refine ⟨scannable _ (by simp [tokens]), ?_⟩
    intro argument isArgument
    have among : some argument ∈ front.map Token.literal? := by
      rw [stand]
      exact List.mem_map_of_mem isArgument
    rcases List.mem_map.mp among with ⟨token, inFront, stands⟩
    exact ⟨token, scannable token (by simp [tokens, inFront]), stands⟩

/-- What follows the operation's name in a displayed call. -/
def shownBehind (arguments : List Literal) : List Char :=
  arguments.flatMap (fun argument => ' ' :: argument.display.toList) ++ [')']

theorem shownBehind_apart (arguments : List Literal) :
    (shownBehind arguments).head?.all endsWord := by
  cases arguments <;> simp [shownBehind, endsWord, isBlank]

theorem scan_shownBehind (readable : ∀ argument ∈ arguments, argument.IsReadable) :
    scan (shownBehind arguments) = arguments.map Literal.shown ++ [.closeParen] := by
  induction arguments with
  | nil =>
      have closed : Token.closeParen.isClosed := rfl
      have found := scan_spell_of_isClosed closed []
      rwa [scan_nil] at found
  | cons argument arguments ih =>
      rw [List.forall_mem_cons] at readable
      have shape : shownBehind (argument :: arguments) =
          ' ' :: (argument.display.toList ++ shownBehind arguments) := by
        simp [shownBehind]
      rw [shape, scan_blank (by decide),
        Literal.scan_display readable.1 (shownBehind_apart arguments), ih readable.2]
      rfl

theorem toList_display_call (operation : String) (arguments : List Literal) :
    (Expression.call operation arguments).display.toList =
      '(' :: ((Token.word operation).spell ++ shownBehind arguments) := by
  have folded (text : String) :
      (arguments.foldl (fun text argument => text ++ " " ++ argument.display) text).toList =
        text.toList ++ arguments.flatMap fun argument => ' ' :: argument.display.toList := by
    induction arguments generalizing text with
    | nil => simp
    | cons argument arguments ih => simp [ih]
  simp [display, folded, shownBehind, spell]

theorem tokenize_display (readable : expression.IsReadable) :
    tokenize expression.display = expression.shown := by
  cases expression with
  | literal value =>
      have bounded := Literal.display_bounded readable
      have trimmed := @trim_between [] value.display.toList [] (by simp) (by simp) bounded.1
        bounded.2
      have apart : ([] : List Char).head?.all endsWord := rfl
      have found := Literal.scan_display readable apart
      rw [List.append_nil, scan_nil] at found
      rw [List.nil_append, List.append_nil] at trimmed
      rw [tokenize, display, trimmed, found, shown]
  | call operation arguments =>
      have trimmed : trim (Expression.call operation arguments).display.toList =
          (Expression.call operation arguments).display.toList := by
        have shape : (Expression.call operation arguments).display.toList =
            '(' :: ((Token.word operation).spell ++
              arguments.flatMap (fun argument => ' ' :: argument.display.toList)) ++ [')'] := by
          rw [toList_display_call, shownBehind]
          simp
        rw [shape]
        exact trim_bounded (by decide) (by decide) _
      have isOpen : Token.openParen.isClosed := rfl
      have opened := scan_spell_of_isClosed isOpen
        ((Token.word operation).spell ++ shownBehind arguments)
      rw [spell, List.singleton_append] at opened
      rw [tokenize, trimmed, toList_display_call, opened,
        scan_spell (shownBehind_apart arguments) readable.1, scan_shownBehind readable.2, shown]
      rfl

theorem ofTokens_shown_eq_ok_iff (readable : expression.IsReadable) :
    ofTokens expression.shown = .ok expression ↔ expression.isLegible := by
  rw [ofTokens_eq_ok_iff]
  cases expression with
  | literal value =>
      rw [isLegible, ← Literal.literal?_shown_eq_some_iff readable]
      constructor
      · rintro (⟨token, other, tokens, stands, same⟩ | ⟨operation, front, arguments, _, _, same⟩)
        · cases same
          rw [shown, List.singleton_inj] at tokens
          rwa [tokens]
        · cases same
      · intro stands
        exact .inl ⟨value.shown, value, rfl, stands, rfl⟩
  | call operation arguments =>
      have each : (arguments.map Literal.shown).map Token.literal? = arguments.map some ↔
          (Expression.call operation arguments).isLegible := by
        rw [List.map_map, List.map_inj_left, isLegible, List.all_eq_true]
        exact forall₂_congr fun argument isArgument =>
          Literal.literal?_shown_eq_some_iff (readable.2 argument isArgument)
      rw [← each]
      constructor
      · rintro (⟨_, _, _, _, same⟩ | ⟨other, front, others, tokens, stand, same⟩)
        · cases same
        · cases same
          have front_eq : arguments.map Literal.shown = front := by
            simpa [shown] using tokens
          rwa [front_eq]
      · intro stand
        exact .inr ⟨operation, _, arguments, rfl, stand, rfl⟩

/-- An expression that was read is read back from its display exactly if every double of it has a
fraction and no string of it holds a concealed character other than a line feed, a carriage return
and a tab. -/
theorem read_display_eq_ok_iff (line : String) (expression : Expression)
    (read : Expression.read line = .ok expression) :
    Expression.read expression.display = .ok expression ↔ expression.isLegible := by
  rw [Expression.read, tokenize_display (isReadable_of_read read)]
  exact ofTokens_shown_eq_ok_iff (isReadable_of_read read)

theorem read_display_ne_of_whole_double :
    let three := Expression.literal (.number (.double (.finite false 6755399441055744 (-51))))
    Expression.read "3.0" = .ok three ∧ three.display = "3" ∧
      Expression.read three.display ≠ .ok three := by
  intro three
  have tokens : tokenize "3.0" = [.number "3.0"] := by
    rw [tokenize, show trim "3.0".toList = '3' :: ['.', '0'] from rfl, scan_first (by decide)]
    rw [show first '3' ['.', '0'] = (.number "3.0", []) from rfl, scan_nil]
  have read : Expression.read "3.0" = .ok three := by
    rw [Expression.read, tokens]
    decide +kernel
  refine ⟨read, by decide +kernel, ?_⟩
  rw [ne_eq, read_display_eq_ok_iff "3.0" three read]
  decide

end Expression

end MemoryKeeper

import MemoryKeeper.Proofs.Expressions
import MemoryKeeper.Proofs.Timestamps
import Mathlib.Data.List.Forall2

/-!
# Derivations of expressions

The grammar of commands as rules: a literal alone is an expression, and so is a
word with literals behind it between one pair of parentheses. The rules say
nothing of the order in which tokens are looked at. Reading finds an expression
exactly when the rules derive it from all tokens that were given.
-/

namespace MemoryKeeper

/-- The integers that numerals stand for: one digit or more, behind one sign at most. -/
inductive SpellsInteger : List Char → Int → Prop where
  | unsigned {digits : List Char} (nonempty : digits ≠ [])
      (areDigits : ∀ digit ∈ digits, digit.isDigit) :
      SpellsInteger digits (Nat.ofDigitChars 10 digits 0)
  | positive {digits : List Char} (nonempty : digits ≠ [])
      (areDigits : ∀ digit ∈ digits, digit.isDigit) :
      SpellsInteger ('+' :: digits) (Nat.ofDigitChars 10 digits 0)
  | negative {digits : List Char} (nonempty : digits ≠ [])
      (areDigits : ∀ digit ∈ digits, digit.isDigit) :
      SpellsInteger ('-' :: digits) (-(Nat.ofDigitChars 10 digits 0 : Int))

/-- The literals that tokens denote. The text of a number denotes an integer if no point is in it
and the integer has 64 bits, and otherwise the double that it reads as. -/
inductive Token.Denotes : Token → Literal → Prop where
  | string (text : String) : Denotes (.string text) (.string text)
  | word (text : String) : Denotes (.word text) (.word text)
  | glyph (text : String) : Denotes (.glyph text) (.glyph text)
  | integer {text : String} {value : Int} (noPoint : '.' ∉ text.toList)
      (spelled : SpellsInteger text.toList value) (lower : -9223372036854775808 ≤ value)
      (upper : value ≤ 9223372036854775807) :
      Denotes (.number text) (.number (.integer value))
  | double {text : String} {value : Double} (point : '.' ∈ text.toList)
      (parsed : Double.ofNumeral? text.toList = some value) :
      Denotes (.number text) (.number (.double value))

/-- The expressions that sequences of tokens derive. -/
inductive Expression.Derives : List Token → Expression → Prop where
  | literal {token : Token} {value : Literal} (denotes : token.Denotes value) :
      Derives [token] (.literal value)
  | call {operation : String} {tokens : List Token} {arguments : List Literal}
      (denote : List.Forall₂ Token.Denotes tokens arguments) :
      Derives (.openParen :: .word operation :: tokens ++ [.closeParen])
        (.call operation arguments)

theorem takeSign_of_digits {digits : List Char} (areDigits : ∀ digit ∈ digits, digit.isDigit) :
    Decimal.takeSign digits = (false, digits) := by
  unfold Decimal.takeSign
  split
  · next rest => cases areDigits '-' List.mem_cons_self
  · next rest => cases areDigits '+' List.mem_cons_self
  · rfl

theorem readInteger?_eq {text digits : List Char} {negative : Bool}
    (signed : Decimal.takeSign text = (negative, digits)) (nonempty : digits ≠ [])
    (areDigits : ∀ digit ∈ digits, digit.isDigit) :
    readInteger? text = some (if negative then -(Nat.ofDigitChars 10 digits 0 : Int)
      else Nat.ofDigitChars 10 digits 0) := by
  have allDigits : digits.all Char.isDigit := by
    simpa using areDigits
  simp [readInteger?, signed, nonempty, allDigits, Decimal.valueOfDigits_eq_ofDigitChars]

theorem readInteger?_eq_some_iff {text : List Char} {value : Int} :
    readInteger? text = some value ↔ SpellsInteger text value := by
  constructor
  · intro read
    rcases signed : Decimal.takeSign text with ⟨negative, digits⟩
    have shape := read
    rw [readInteger?, signed] at shape
    simp only [Bool.or_eq_true, List.isEmpty_iff, Bool.not_eq_true', Option.ite_none_left_eq_some,
      not_or, Bool.not_eq_false, List.all_eq_true] at shape
    rcases shape with ⟨⟨nonempty, areDigits⟩, -⟩
    rw [readInteger?_eq signed nonempty areDigits] at read
    cases read
    unfold Decimal.takeSign at signed
    split at signed
    · cases signed
      exact .negative nonempty areDigits
    · cases signed
      exact .positive nonempty areDigits
    · cases signed
      exact .unsigned nonempty areDigits
  · intro spelled
    cases spelled with
    | unsigned nonempty areDigits =>
        exact readInteger?_eq (takeSign_of_digits areDigits) nonempty areDigits
    | positive nonempty areDigits => exact readInteger?_eq rfl nonempty areDigits
    | negative nonempty areDigits => exact readInteger?_eq rfl nonempty areDigits

namespace Token

variable {token : Token} {value : Literal} {tokens : List Token} {arguments : List Literal}

/-- A number token stands for an integer or a double, as a point in its text decides. -/
theorem denotes_number_iff {text : String} {number : Number} :
    (Token.number text).Denotes (.number number) ↔ Number.read? text = some number := by
  rw [Number.read?]
  by_cases point : '.' ∈ text.toList
  · simp only [List.contains_iff_mem, point, if_true, Option.map_eq_some_iff]
    constructor
    · intro denotes
      cases denotes with
      | integer noPoint => contradiction
      | double _ parsed => exact ⟨_, parsed, rfl⟩
    · rintro ⟨value, parsed, rfl⟩
      exact .double point parsed
  · simp only [List.contains_iff_mem, point, if_false]
    constructor
    · intro denotes
      cases denotes with
      | integer _ spelled lower upper =>
          rw [readInteger?_eq_some_iff.mpr spelled]
          simp
          omega
      | double isPoint => contradiction
    · rcases read : readInteger? text.toList with _ | integer
      · simp
      · simp only [Option.ite_none_right_eq_some]
        rintro ⟨range, made⟩
        cases made
        simp at range
        exact .integer point (readInteger?_eq_some_iff.mp read) (by omega) (by omega)

theorem denotes_iff : token.Denotes value ↔ token.literal? = some value := by
  constructor
  · intro denotes
    cases denotes with
    | integer noPoint spelled lower upper =>
        rw [literal?, denotes_number_iff.mp (.integer noPoint spelled lower upper)]
        rfl
    | double point parsed =>
        rw [literal?, denotes_number_iff.mp (.double point parsed)]
        rfl
    | _ => rfl
  · intro stands
    cases token with
    | number text =>
        rcases Option.map_eq_some_iff.mp stands with ⟨number, read, rfl⟩
        exact denotes_number_iff.mpr read
    | string text =>
        cases stands
        exact .string text
    | word text =>
        cases stands
        exact .word text
    | glyph text =>
        cases stands
        exact .glyph text
    | _ => cases stands

theorem forall_denotes_iff :
    List.Forall₂ Denotes tokens arguments ↔ tokens.map literal? = arguments.map some := by
  have same : Denotes = fun token value => token.literal? = some value := by
    funext token value
    exact propext denotes_iff
  rw [same, ← List.forall₂_eq_eq_eq, List.forall₂_map_left_iff, List.forall₂_map_right_iff]

end Token

/-- What is read from tokens is what they derive. -/
theorem Expression.ofTokens_eq_ok_iff_derives (tokens : List Token) (expression : Expression) :
    Expression.ofTokens tokens = .ok expression ↔ Expression.Derives tokens expression := by
  rw [Expression.ofTokens_eq_ok_iff]
  constructor
  · rintro (⟨token, value, rfl, stands, rfl⟩ | ⟨operation, front, arguments, rfl, stand, rfl⟩)
    · exact .literal (Token.denotes_iff.mpr stands)
    · exact .call (Token.forall_denotes_iff.mpr stand)
  · intro derived
    cases derived with
    | literal denotes => exact .inl ⟨_, _, rfl, Token.denotes_iff.mp denotes, rfl⟩
    | call denote => exact .inr ⟨_, _, _, rfl, Token.forall_denotes_iff.mp denote, rfl⟩

end MemoryKeeper

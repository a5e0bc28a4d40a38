import MemoryKeeper.Json.Printer
import MemoryKeeper.Json.Reader
import MemoryKeeper.Number.Notation
import MemoryKeeper.Proofs.Derivations
import MemoryKeeper.Proofs.Shortest
import MemoryKeeper.Proofs.Timestamps
import Mathlib.Tactic.IntervalCases

/-!
# Numerals of doubles

A numeral is a sign, digits without a leading zero, digits behind a point if there
are any, and a power of ten if there is one. It has a size, and reading it gives
the double nearest to that size. All written forms of a decimal are numerals of the
decimal's size, so both written forms of a double read as that double.
-/

namespace MemoryKeeper

open Decimal Timestamp

/-- The parts of a numeral. -/
structure Numeral where
  negative : Bool
  whole : List Char
  fraction : List Char
  tail : List Char
  exponent : ℤ
  isWholePart_whole : Json.isWholePart whole
  isDigit_fraction : ∀ digit ∈ fraction, digit.isDigit
  readExponent?_tail : readExponent? tail = some exponent

theorem Json.isWholePart_iff {digits : List Char} :
    isWholePart digits ↔
      digits = ['0'] ∨ digits ≠ [] ∧ digits.head? ≠ some '0' ∧ ∀ digit ∈ digits, digit.isDigit := by
  unfold isWholePart
  split
  · simp
  · simp
  · next rest other => simp_all
  · next nonempty single zero =>
      simp only [List.all_eq_true]
      constructor
      · intro areDigits
        refine .inr ⟨nonempty, ?_, areDigits⟩
        intro leading
        rcases List.head?_eq_some_iff.mp leading with ⟨rest, shape⟩
        exact zero rest shape
      · rintro (rfl | ⟨-, -, areDigits⟩)
        · simp at single
        · exact areDigits

namespace Numeral

variable (numeral : Numeral)

/-- What stands behind the whole part. -/
def behind : List Char :=
  (if numeral.fraction = [] then [] else '.' :: numeral.fraction) ++ numeral.tail

def text : List Char :=
  (if numeral.negative then ['-'] else []) ++ numeral.whole ++ numeral.behind

def size : ℚ :=
  valueOfDigits (numeral.whole ++ numeral.fraction) *
    10 ^ (numeral.exponent - numeral.fraction.length)

/-- The numeral is a text for a decimal. -/
structure Writes (decimal : Decimal) (text : List Char) : Prop where
  text_eq : text = numeral.text
  negative_eq : numeral.negative = decimal.negative
  size_eq : numeral.size = decimal.size

theorem isDigit_whole : ∀ digit ∈ numeral.whole, digit.isDigit := by
  rcases Json.isWholePart_iff.mp numeral.isWholePart_whole with zero | ⟨-, -, areDigits⟩
  · simp [zero]
  · exact areDigits

theorem whole_ne_nil : numeral.whole ≠ [] := by
  rcases Json.isWholePart_iff.mp numeral.isWholePart_whole with zero | ⟨nonempty, -⟩
  · simp [zero]
  · exact nonempty

theorem text_ne_nil : numeral.text ≠ [] := by
  simp [text, numeral.whole_ne_nil]

theorem tail_cases : numeral.tail = [] ∨ ∃ mark rest, numeral.tail = mark :: rest ∧
    (mark = 'e' ∨ mark = 'E') := by
  have read := numeral.readExponent?_tail
  unfold readExponent? at read
  split at read
  · next nothing => exact .inl nothing
  · next mark rest shape =>
      split_ifs at read with isMark
      · exact .inr ⟨mark, rest, shape, isMark⟩

theorem endsDigits_tail : endsDigits numeral.tail := by
  rcases numeral.tail_cases with nothing | ⟨mark, rest, shape, rfl | rfl⟩ <;>
    simp [*, endsDigits]

theorem endsDigits_behind : endsDigits numeral.behind := by
  rw [behind]
  split_ifs
  · simpa using numeral.endsDigits_tail
  · simp [endsDigits]

theorem takeFraction_behind : takeFraction numeral.behind = (numeral.fraction, numeral.tail) := by
  have taken := takeWhile_digits_append numeral.isDigit_fraction numeral.endsDigits_tail
  have dropped := dropWhile_digits_append numeral.isDigit_fraction numeral.endsDigits_tail
  rw [behind]
  split_ifs with nothing
  · rcases numeral.tail_cases with none | ⟨mark, rest, shape, rfl | rfl⟩ <;>
      simp [*, takeFraction]
  · simp [takeFraction, taken, dropped]

theorem takeSign_text :
    takeSign numeral.text = (numeral.negative, numeral.whole ++ numeral.behind) := by
  rcases List.exists_cons_of_ne_nil numeral.whole_ne_nil with ⟨digit, rest, shape⟩
  have isDigit : digit.isDigit := numeral.isDigit_whole digit (by simp [shape])
  rw [text, shape]
  cases numeral.negative with
  | true => rfl
  | false =>
      simp only [Bool.false_eq_true, if_false, List.nil_append, List.cons_append]
      unfold takeSign
      split
      · next same =>
          cases same
          cases isDigit
      · next same =>
          cases same
          cases isDigit
      · rfl

theorem read?_text : Decimal.read? numeral.text = some ⟨numeral.negative,
    valueOfDigits (numeral.whole ++ numeral.fraction),
    numeral.exponent - numeral.fraction.length⟩ := by
  have taken := takeWhile_digits_append numeral.isDigit_whole numeral.endsDigits_behind
  have dropped := dropWhile_digits_append numeral.isDigit_whole numeral.endsDigits_behind
  have nonempty := numeral.whole_ne_nil
  simp [Decimal.read?, takeSign_text, taken, dropped, takeFraction_behind, nonempty,
    numeral.readExponent?_tail]

/-- A numeral reads as the double nearest to its size. -/
theorem ofNumeral?_text :
    Double.ofNumeral? numeral.text = some (Double.nearest numeral.negative numeral.size) := by
  rw [Double.ofNumeral?, read?_text, Option.map_some, Double.ofDecimal_eq_nearest]
  rfl

theorem Writes.ofNumeral? {numeral : Numeral} {decimal : Decimal} {text : List Char}
    (writes : numeral.Writes decimal text) :
    Double.ofNumeral? text = some (Double.ofDecimal decimal) := by
  rw [writes.text_eq, ofNumeral?_text, writes.negative_eq, writes.size_eq,
    Double.ofDecimal_eq_nearest]

end Numeral

theorem Nat.isDigit_toDigits (value : ℕ) : ∀ digit ∈ Nat.toDigits 10 value, digit.isDigit := by
  intro digit present
  exact Nat.isDigit_of_mem_toDigits (by decide) (by decide) present

theorem Nat.head?_toDigits_ne_zero {value : ℕ} (positive : 0 < value) :
    (Nat.toDigits 10 value).head? ≠ some '0' := by
  induction value using Nat.strongRecOn with
  | ind value ih =>
      rw [Nat.toDigits_eq_if (by decide)]
      split_ifs with small
      · interval_cases value <;> decide
      · have shorter := ih (value / 10) (by omega) (by omega)
        have nonempty : Nat.toDigits 10 (value / 10) ≠ [] := Nat.toDigits_ne_nil
        rwa [List.head?_append_of_ne_nil _ nonempty]

namespace Decimal

variable {decimal : Decimal}

theorem isDigit_of_mem_digits {digit : Char} (present : digit ∈ decimal.digits) : digit.isDigit :=
  Nat.isDigit_toDigits _ digit present

@[simp]
theorem valueOfDigits_digits (decimal : Decimal) :
    valueOfDigits decimal.digits = decimal.coefficient := by
  rw [valueOfDigits_eq_ofDigitChars, digits, Nat.ofDigitChars_ten_toDigits]

theorem valueOfDigits_zeros_append (count : ℕ) (digits : List Char) :
    valueOfDigits (List.replicate count '0' ++ digits) = valueOfDigits digits := by
  simp [valueOfDigits_eq_ofDigitChars, Nat.ofDigitChars_append]

theorem valueOfDigits_append_zeros (count : ℕ) (digits : List Char) :
    valueOfDigits (digits ++ List.replicate count '0') = valueOfDigits digits * 10 ^ count := by
  simp [valueOfDigits_eq_ofDigitChars, Nat.ofDigitChars_append, Nat.mul_comm]

theorem digits_ne_nil (decimal : Decimal) : decimal.digits ≠ [] :=
  Nat.toDigits_ne_nil

theorem head?_digits (nonzero : decimal.coefficient ≠ 0) : decimal.digits.head? ≠ some '0' :=
  Nat.head?_toDigits_ne_zero (Nat.pos_of_ne_zero nonzero)

theorem isDigit_of_mem_zeros {count : ℕ} {digit : Char}
    (present : digit ∈ List.replicate count '0') : digit.isDigit := by
  rw [List.eq_of_mem_replicate present]
  decide

section Positional

variable {ending : List Char}

theorem exists_numeral_of_whole (whole : 0 ≤ decimal.exponent)
    (isEnding : ending = [] ∨ ending = ['.', '0'])
    (normal : decimal.coefficient = 0 → decimal.exponent = 0) :
    ∃ numeral : Numeral, numeral.Writes decimal (decimal.positional ending) ∧ numeral.tail = [] ∧
      (numeral.fraction = [] ↔ ending = []) := by
  obtain ⟨exponent, isExponent⟩ := Int.eq_ofNat_of_zero_le whole
  have isWhole : Json.isWholePart (decimal.digits ++ List.replicate exponent '0') := by
    by_cases isZero : decimal.coefficient = 0
    · rw [normal isZero] at isExponent
      have noZeros : exponent = 0 := by omega
      rw [digits, isZero, noZeros]
      decide
    · rw [Json.isWholePart_iff]
      refine .inr ⟨by simp [digits_ne_nil], ?_, ?_⟩
      · rw [List.head?_append_of_ne_nil _ decimal.digits_ne_nil]
        exact head?_digits isZero
      · intro digit present
        rcases List.mem_append.mp present with present | present
        · exact isDigit_of_mem_digits present
        · exact isDigit_of_mem_zeros present
  rcases isEnding with rfl | rfl
  · refine ⟨⟨decimal.negative, _, [], [], 0, isWhole, by simp, rfl⟩, ⟨?_, rfl, ?_⟩, rfl, by simp⟩
    · simp [positional, isExponent, Numeral.text, Numeral.behind, signText]
    · simp [Numeral.size, size, isExponent, valueOfDigits_append_zeros]
  · refine ⟨⟨decimal.negative, _, ['0'], [], 0, isWhole, by simp, rfl⟩, ⟨?_, rfl, ?_⟩, rfl,
      by simp⟩
    · simp [positional, isExponent, Numeral.text, Numeral.behind, signText]
    · have longer := valueOfDigits_append_zeros (exponent + 1) decimal.digits
      rw [List.replicate_succ', ← List.append_assoc] at longer
      rw [Numeral.size, longer]
      simp only [valueOfDigits_digits, size, isExponent, pow_succ, zero_sub, List.length_singleton,
        Nat.cast_one, zpow_neg_one, zpow_natCast]
      push_cast
      ring

theorem exists_numeral_of_small (below : decimal.exponent < 0) (early : decimal.pointPosition ≤ 0) :
    ∃ numeral : Numeral, numeral.Writes decimal (decimal.positional ending) ∧ numeral.tail = [] ∧
      numeral.fraction ≠ [] := by
  have areDigits : ∀ digit ∈ List.replicate (-decimal.pointPosition).toNat '0' ++ decimal.digits,
      digit.isDigit := by
    intro digit present
    rcases List.mem_append.mp present with present | present
    · exact isDigit_of_mem_zeros present
    · exact isDigit_of_mem_digits present
  refine ⟨⟨decimal.negative, ['0'], _, [], 0, rfl, areDigits, rfl⟩, ⟨?_, rfl, ?_⟩, rfl, ?_⟩
  · simp [positional, not_le.mpr below, early, Numeral.text, Numeral.behind, signText,
      digits_ne_nil]
  · have length : (0 : ℤ) - ((-decimal.pointPosition).toNat + decimal.digits.length : ℕ) =
        decimal.exponent := by
      rw [pointPosition] at early ⊢
      omega
    have value := valueOfDigits_zeros_append ((-decimal.pointPosition).toNat + 1) decimal.digits
    rw [List.replicate_succ, List.cons_append, valueOfDigits_digits] at value
    rw [Numeral.size, List.length_append, List.length_replicate, length, List.singleton_append,
      value, size]
  · simp [digits_ne_nil]

theorem exists_numeral_of_mixed (below : decimal.exponent < 0) (late : 0 < decimal.pointPosition)
    (nonzero : decimal.coefficient ≠ 0) :
    ∃ numeral : Numeral, numeral.Writes decimal (decimal.positional ending) ∧ numeral.tail = [] ∧
      numeral.fraction ≠ [] := by
  obtain ⟨point, isPoint⟩ := Int.eq_ofNat_of_zero_le late.le
  have point_pos : point ≠ 0 := by omega
  have length : (decimal.digits.length : ℤ) = point - decimal.exponent := by
    rw [← isPoint, pointPosition]
    omega
  have isWhole : Json.isWholePart (decimal.digits.take point) := by
    rw [Json.isWholePart_iff]
    refine .inr ⟨by simp [point_pos, digits_ne_nil], ?_, ?_⟩
    · rw [List.head?_take, if_neg point_pos]
      exact head?_digits nonzero
    · intro digit present
      exact isDigit_of_mem_digits (List.mem_of_mem_take present)
  have areDigits : ∀ digit ∈ decimal.digits.drop point, digit.isDigit := by
    intro digit present
    exact isDigit_of_mem_digits (List.mem_of_mem_drop present)
  have notAll : decimal.digits.drop point ≠ [] := by
    rw [ne_eq, List.drop_eq_nil_iff]
    omega
  refine ⟨⟨decimal.negative, _, _, [], 0, isWhole, areDigits, rfl⟩, ⟨?_, rfl, ?_⟩, rfl, notAll⟩
  · simp [positional, not_le.mpr below, isPoint, point_pos, notAll, Numeral.text, Numeral.behind,
      signText]
  · have behind : (0 : ℤ) - (decimal.digits.drop point).length = decimal.exponent := by
      rw [List.length_drop]
      omega
    rw [Numeral.size, List.take_append_drop, valueOfDigits_digits, behind, size]

/-- The positional form is a numeral. It has digits behind the point if the decimal does or the
ending of integral numbers shows some. -/
theorem exists_numeral_positional (ending : List Char)
    (isEnding : ending = [] ∨ ending = ['.', '0'])
    (normal : decimal.coefficient = 0 → decimal.exponent = 0) :
    ∃ numeral : Numeral, numeral.Writes decimal (decimal.positional ending) ∧ numeral.tail = [] ∧
      (numeral.fraction = [] ↔ 0 ≤ decimal.exponent ∧ ending = []) := by
  by_cases whole : 0 ≤ decimal.exponent
  · simpa [whole] using exists_numeral_of_whole whole isEnding normal
  · have below := not_le.mp whole
    have nonzero : decimal.coefficient ≠ 0 := by
      intro isZero
      exact whole (normal isZero).ge
    simp only [whole, false_and, iff_false]
    by_cases early : decimal.pointPosition ≤ 0
    · exact exists_numeral_of_small below early
    · exact exists_numeral_of_mixed below (not_le.mp early) nonzero

end Positional

theorem readExponent?_signed (power : ℤ) :
    readExponent? ('e' :: (if power < 0 then '-' else '+') :: Nat.toDigits 10 power.natAbs) =
      some power := by
  have areDigits : (Nat.toDigits 10 power.natAbs).all Char.isDigit :=
    List.all_eq_true.mpr (Nat.isDigit_toDigits _)
  split_ifs with below
  · simp [readExponent?, takeSign, areDigits, Nat.toDigits_ne_nil, valueOfDigits_eq_ofDigitChars,
      abs_of_neg below]
  · simp [readExponent?, takeSign, areDigits, Nat.toDigits_ne_nil, valueOfDigits_eq_ofDigitChars,
      not_lt.mp below]

/-- The scientific form is a numeral with a power of ten behind it. -/
theorem exists_numeral_scientific (nonzero : decimal.coefficient ≠ 0) :
    ∃ numeral : Numeral, numeral.Writes decimal decimal.scientific ∧ numeral.tail ≠ [] := by
  rcases List.exists_cons_of_ne_nil decimal.digits_ne_nil with ⟨digit, rest, shape⟩
  have leading : digit ≠ '0' := by
    simpa [shape] using head?_digits nonzero
  have areDigits : ∀ other ∈ digit :: rest, other.isDigit := by
    rw [← shape]
    intro other present
    exact isDigit_of_mem_digits present
  rw [List.forall_mem_cons] at areDigits
  have isWhole : Json.isWholePart [digit] := by
    rw [Json.isWholePart_iff]
    simp [leading, areDigits.1]
  refine ⟨⟨decimal.negative, [digit], rest, _, _, isWhole, areDigits.2,
    readExponent?_signed (decimal.pointPosition - 1)⟩, ⟨?_, rfl, ?_⟩, by simp⟩
  · cases rest <;> simp [scientific, shape, Numeral.text, Numeral.behind, signText]
  · have behind : decimal.pointPosition - 1 - rest.length = decimal.exponent := by
      rw [pointPosition, shape, List.length_cons]
      omega
    rw [Numeral.size, List.singleton_append, ← shape, valueOfDigits_digits, behind, size]

end Decimal

theorem Json.exists_numeral_integerText (value : ℤ) :
    ∃ numeral : Numeral, integerText value = numeral.text ∧ numeral.fraction = [] ∧
      numeral.tail = [] := by
  have isWhole : isWholePart (Nat.toDigits 10 value.natAbs) := by
    rw [isWholePart_iff]
    by_cases isZero : value = 0
    · left
      simp [isZero]
    · exact .inr ⟨Nat.toDigits_ne_nil, Nat.head?_toDigits_ne_zero (by omega),
        Nat.isDigit_toDigits _⟩
  refine ⟨⟨value < 0, _, [], [], 0, isWhole, by simp, rfl⟩, ?_, rfl, rfl⟩
  simp [integerText, Numeral.text, Numeral.behind]

theorem Json.readInteger?_integerText (value : ℤ) :
    readInteger? (integerText value) = some value := by
  have areDigits := Nat.isDigit_toDigits value.natAbs
  rw [integerText]
  split_ifs with below
  · have signed : takeSign (['-'] ++ Nat.toDigits 10 value.natAbs) =
        (true, Nat.toDigits 10 value.natAbs) := rfl
    rw [readInteger?_eq signed Nat.toDigits_ne_nil areDigits]
    simp [abs_of_neg below]
  · rw [List.nil_append, readInteger?_eq (takeSign_of_digits areDigits) Nat.toDigits_ne_nil
      areDigits]
    simp [not_lt.mp below]

namespace Double

variable {negative : Bool} {significand : ℕ} {power : ℤ}

theorem coefficient_shortestOf {tie : Tie} (canonical : IsCanonical significand power)
    (isZero : (shortestOf tie negative significand power).coefficient = 0) : significand = 0 := by
  have again : ofDecimal (shortestOf tie negative significand power) =
      .finite negative significand power := ofDecimal_shortestOf canonical
  rw [ofDecimal_eq_nearest, Decimal.size, isZero] at again
  simp only [Nat.cast_zero, zero_mul, nearest, if_true, zero] at again
  injection again with _ same _
  exact same.symm

theorem exponent_shortestOf_of_coefficient {tie : Tie} (canonical : IsCanonical significand power)
    (isZero : (shortestOf tie negative significand power).coefficient = 0) :
    (shortestOf tie negative significand power).exponent = 0 := by
  rw [coefficient_shortestOf canonical isZero]
  simp [shortestOf]

/-- The plain form of a double is a numeral, and has digits behind the point exactly if the double
is no integer. -/
theorem exists_numeral_plainText (negative : Bool) (canonical : IsCanonical significand power) :
    ∃ numeral : Numeral, numeral.Writes (shortestOf .awayFromZero negative significand power)
        (plainText (.finite negative significand power)) ∧ numeral.tail = [] ∧
      (numeral.fraction = [] ↔ ¬isFractional (.finite negative significand power)) := by
  rcases Decimal.exists_numeral_positional [] (.inl rfl)
    (exponent_shortestOf_of_coefficient canonical) with ⟨numeral, writes, tail, fraction⟩
  refine ⟨numeral, writes, tail, ?_⟩
  have sign : (shortestOf .awayFromZero negative significand power).exponent < 0 ↔
      isFractional (.finite negative significand power) := exponent_shortestOf canonical
  rw [← sign, not_lt, fraction]
  simp

/-- The form in data is a numeral with a point or a power of ten. -/
theorem exists_numeral_dataText (negative : Bool) (canonical : IsCanonical significand power) :
    ∃ (text : List Char) (numeral : Numeral),
      dataText? (.finite negative significand power) = some text ∧
      numeral.Writes (shortestOf .toEven negative significand power) text ∧
      (numeral.fraction ≠ [] ∨ numeral.tail ≠ []) := by
  rw [dataText?]
  split_ifs with middle
  · rcases Decimal.exists_numeral_positional ['.', '0'] (.inr rfl)
      (exponent_shortestOf_of_coefficient canonical) with ⟨numeral, writes, -, fraction⟩
    exact ⟨_, numeral, rfl, writes, .inl (by simp [fraction])⟩
  · have nonzero : (shortestOf .toEven negative significand power).coefficient ≠ 0 := by
      intro isZero
      exact middle (.inl (coefficient_shortestOf canonical isZero))
    rcases Decimal.exists_numeral_scientific nonzero with ⟨numeral, writes, tail⟩
    exact ⟨_, numeral, rfl, writes, .inr tail⟩

end Double

end MemoryKeeper

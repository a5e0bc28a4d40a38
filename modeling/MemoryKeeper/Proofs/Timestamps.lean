import MemoryKeeper.Time.Reader
import Mathlib.Algebra.Group.Nat.Defs
import Mathlib.Data.List.TakeWhile

/-!
# Written timestamps

The written form of a timestamp reads back as that timestamp in the relaxed
grammar. Each field is a run of digits that something else than a digit follows,
so the reader takes exactly what was written of it; the fraction is the shortest
of three lengths that loses nothing.
-/

namespace MemoryKeeper

theorem Decimal.valueOfDigits_eq_ofDigitChars (digits : List Char) :
    valueOfDigits digits = Nat.ofDigitChars 10 digits 0 := by
  simp [valueOfDigits, Nat.ofDigitChars_eq_foldl, Nat.mul_comm]

theorem daysInMonth_le (year : Int) (month : Nat) : daysInMonth year month ≤ 31 := by
  unfold daysInMonth
  split
  · split <;> omega
  · split <;> omega

theorem Date.ofFields?_fields (date : Date) :
    Date.ofFields? date.year date.month date.day = some date := by
  simp [Date.ofFields?, date.exists_day]

namespace Timestamp

open MemoryKeeper.Text

theorem isDigit_of_mem_padded {width value : Nat} {character : Char}
    (present : character ∈ padded width value) : character.isDigit := by
  simp only [padded, List.mem_append, List.mem_replicate] at present
  rcases present with ⟨-, rfl⟩ | digit
  · decide
  · exact Nat.isDigit_of_mem_toDigits (by decide) (by decide) digit

@[simp]
theorem valueOfDigits_padded (width value : Nat) :
    Decimal.valueOfDigits (padded width value) = value := by
  simp [Decimal.valueOfDigits_eq_ofDigitChars, padded, Nat.ofDigitChars_append]

theorem padded_ne_nil (width value : Nat) : padded width value ≠ [] := by
  simp [padded, Nat.toDigits_ne_nil]

theorem length_padded {width value : Nat} (positive : 0 < width)
    (fits : value < 10 ^ width) : (padded width value).length = width := by
  have short := (Nat.length_toDigits_le_iff (by decide : 1 < 10) positive).mpr fits
  simp only [padded, List.length_append, List.length_replicate]
  omega

/-- Whether what follows a run of digits is no digit itself. -/
def endsDigits (rest : List Char) : Prop :=
  ∀ character ∈ rest.head?, ¬character.isDigit

theorem takeWhile_digits_append {digits rest : List Char}
    (allDigits : ∀ character ∈ digits, character.isDigit) (ends : endsDigits rest) :
    (digits ++ rest).takeWhile Char.isDigit = digits := by
  rw [List.takeWhile_append_of_pos allDigits]
  cases rest with
  | nil => simp
  | cons character tail => simp [ends character (by simp)]

theorem dropWhile_digits_append {digits rest : List Char}
    (allDigits : ∀ character ∈ digits, character.isDigit) (ends : endsDigits rest) :
    (digits ++ rest).dropWhile Char.isDigit = rest := by
  rw [List.dropWhile_append_of_pos allDigits]
  cases rest with
  | nil => simp
  | cons character tail => simp [ends character (by simp)]

theorem takeNumber?_padded {most width value : Nat} {rest : List Char}
    (fits : (padded width value).length ≤ most) (ends : endsDigits rest) :
    takeNumber? most (padded width value ++ rest) = some (value, rest) := by
  have allDigits : ∀ character ∈ padded width value, character.isDigit := by
    intro _ present
    exact isDigit_of_mem_padded present
  have taken := takeWhile_digits_append allDigits ends
  simp [takeNumber?, taken, List.take_of_length_le fits, padded_ne_nil]

theorem isBlank_of_isDigit {character : Char} (digit : character.isDigit) :
    isBlank character = false := by
  simp only [Char.isDigit, Bool.and_eq_true, decide_eq_true_eq, UInt32.le_iff_toNat_le] at digit
  simp only [isBlank, Char.toNat, Bool.or_eq_false_iff, Bool.and_eq_false_iff,
    decide_eq_false_iff_not, beq_eq_false_iff_ne]
  rcases digit with ⟨least, greatest⟩
  change 48 ≤ character.val.toNat at least
  change character.val.toNat ≤ 57 at greatest
  omega

theorem trimStart_cons {character : Char} {rest : List Char}
    (ink : isBlank character = false) : trimStart (character :: rest) = character :: rest := by
  simp [trimStart, ink]

theorem trimStart_padded (width value : Nat) (rest : List Char) :
    trimStart (padded width value ++ rest) = padded width value ++ rest := by
  have digits : ∀ character ∈ padded width value, character.isDigit := by
    intro _ present
    exact isDigit_of_mem_padded present
  cases shape : padded width value with
  | nil => exact absurd shape (padded_ne_nil width value)
  | cons character tail =>
      have digit := digits character (by simp [shape])
      exact trimStart_cons (isBlank_of_isDigit digit)

theorem takeRelaxed?_padded {value : Nat} {rest : List Char} (small : value < 100)
    (ends : endsDigits rest) : takeRelaxed? (padded 2 value ++ rest) = some (value, rest) := by
  have length : (padded 2 value).length = 2 := length_padded (by decide) (by omega)
  rw [takeRelaxed?, trimStart_padded]
  exact takeNumber?_padded (by omega) ends

/-- What stands behind the digits of a field does not go on with them. -/
theorem endsDigits_cons {character : Char} {rest : List Char}
    (other : character.isDigit = false) : endsDigits (character :: rest) := by
  intro found present
  simp only [List.head?_cons, Option.mem_def, Option.some.injEq] at present
  subst found
  simp [other]

theorem takeRelaxedYear?_of_unsigned {character : Char} {rest : List Char}
    (digit : character.isDigit) :
    takeRelaxedYear? (character :: rest) =
      (takeNumber? 4 (character :: rest)).map fun (value, after) => ((value : Int), after) := by
  rw [takeRelaxedYear?, trimStart_cons (isBlank_of_isDigit digit)]
  split
  · next shape =>
      injection shape with sign
      subst sign
      exact absurd digit (by decide)
  · next shape =>
      injection shape with sign
      subst sign
      exact absurd digit (by decide)
  · rfl

theorem takeRelaxedYear?_yearText (year : Int) (rest : List Char) :
    takeRelaxedYear? (yearText year ++ '-' :: rest) = some (year, '-' :: rest) := by
  have ends : endsDigits ('-' :: rest) := endsDigits_cons (by decide)
  unfold yearText
  split
  · next short =>
      have length : (padded 4 year.toNat).length = 4 := length_padded (by decide) (by omega)
      have number : takeNumber? 4 (padded 4 year.toNat ++ '-' :: rest) =
          some (year.toNat, '-' :: rest) := takeNumber?_padded (by omega) ends
      cases shape : padded 4 year.toNat with
      | nil => exact absurd shape (padded_ne_nil 4 year.toNat)
      | cons character tail =>
          have digit : character.isDigit := isDigit_of_mem_padded (by rw [shape]; simp)
          rw [shape, List.cons_append] at number
          rw [List.cons_append, takeRelaxedYear?_of_unsigned digit, number]
          simp only [Option.map_some, Option.some.injEq, Prod.mk.injEq, and_true]
          omega
  · next long =>
      -- Behind a sign a year may have any number of digits.
      have number : takeNumber? (padded 4 year.natAbs ++ '-' :: rest).length
          (padded 4 year.natAbs ++ '-' :: rest) = some (year.natAbs, '-' :: rest) :=
        takeNumber?_padded (by simp) ends
      split
      · next negative =>
          have plain : trimStart ('-' :: (padded 4 year.natAbs ++ '-' :: rest)) =
              '-' :: (padded 4 year.natAbs ++ '-' :: rest) := trimStart_cons (by decide)
          simp only [takeRelaxedYear?, List.cons_append, plain, number, Option.map_some,
            Option.some.injEq, Prod.mk.injEq, and_true]
          omega
      · next positive =>
          have plain : trimStart ('+' :: (padded 4 year.natAbs ++ '-' :: rest)) =
              '+' :: (padded 4 year.natAbs ++ '-' :: rest) := trimStart_cons (by decide)
          simp only [takeRelaxedYear?, List.cons_append, plain, number, Option.map_some,
            Option.some.injEq, Prod.mk.injEq, and_true]
          omega

theorem takeFraction?_point {width value : Nat} {rest : List Char} (positive : 0 < width)
    (within : width ≤ 9) (fits : value < 10 ^ width) (ends : endsDigits rest) :
    takeFraction? ('.' :: padded width value ++ rest) =
      some (value * 10 ^ (9 - width), rest) := by
  have allDigits : ∀ character ∈ padded width value, character.isDigit := by
    intro _ present
    exact isDigit_of_mem_padded present
  have length := length_padded positive fits
  have kept : (padded width value).take 9 = padded width value :=
    List.take_of_length_le (by omega)
  simp [takeFraction?, takeWhile_digits_append allDigits ends,
    dropWhile_digits_append allDigits ends, padded_ne_nil, kept, length]

theorem takeFraction?_fractionText {nanosecond : Nat} {rest : List Char}
    (small : nanosecond < 1000000000) (ends : endsDigits rest) (point : rest.head? ≠ some '.') :
    takeFraction? (fractionText nanosecond ++ rest) = some (nanosecond, rest) := by
  unfold fractionText
  split
  · next whole =>
      subst whole
      rw [List.nil_append]
      unfold takeFraction?
      split
      · next shape => simp at point
      · rfl
  · split
    · next milli =>
        rw [takeFraction?_point (by decide) (by decide) (by omega) ends]
        simp only [Option.some.injEq, Prod.mk.injEq, and_true]
        omega
    · split
      · next micro =>
          rw [takeFraction?_point (by decide) (by decide) (by omega) ends]
          simp only [Option.some.injEq, Prod.mk.injEq, and_true]
          omega
      · rw [takeFraction?_point (by decide) (by decide) (by omega) ends]
        simp

/-- A clock that shows UTC is not ahead of it, so no date changes. -/
theorem ofLocal?_fields (timestamp : Timestamp) :
    ofLocal? timestamp.date timestamp.hour timestamp.minute timestamp.second
      timestamp.nanosecond 0 = some timestamp := by
  rcases timestamp with ⟨date, hour, minute, second, nanosecond, exists_time, storable⟩
  rcases exists_time with ⟨hourSmall, minuteSmall, secondSmall, nanosecondSmall⟩
  have notBefore : ¬((hour : Int) * 60 + minute < 0) := by omega
  have notAfter : ¬(1440 ≤ (hour : Int) * 60 + minute) := by omega
  have minutes : ((hour : Int) * 60 + minute).toNat = hour * 60 + minute := by omega
  have hours : (hour * 60 + minute) / 60 = hour := by omega
  have left : (hour * 60 + minute) % 60 = minute := by omega
  have exists_time : IsTimeOfDay hour minute second nanosecond :=
    ⟨hourSmall, minuteSmall, secondSmall, nanosecondSmall⟩
  simp [ofLocal?, storable, notBefore, notAfter, minutes, hours, left, exists_time]

theorem ofFields?_fields (timestamp : Timestamp) :
    ofFields? timestamp.date.year timestamp.date.month timestamp.date.day timestamp.hour
      timestamp.minute timestamp.second timestamp.nanosecond 0 = some timestamp := by
  have hourSmall : ¬24 ≤ timestamp.hour := by
    have := timestamp.exists_time.1
    omega
  have minuteSmall : ¬60 ≤ timestamp.minute := by
    have := timestamp.exists_time.2.1
    omega
  simp only [ofFields?, timestamp.storable, Bool.not_true, hourSmall, minuteSmall,
    decide_false, Bool.or_self, Bool.false_eq_true, if_false, Date.ofFields?_fields,
    Option.bind_eq_bind, Option.bind_some]
  exact ofLocal?_fields timestamp

theorem readRelaxed?_dataText (timestamp : Timestamp) :
    readRelaxed? timestamp.dataText = some timestamp := by
  have monthSmall : timestamp.date.month < 100 := by
    have := timestamp.date.exists_day.2.1
    omega
  have daySmall : timestamp.date.day < 100 := by
    have := timestamp.date.exists_day.2.2.2
    have := daysInMonth_le timestamp.date.year timestamp.date.month
    omega
  rcases timestamp.exists_time with ⟨hourSmall, minuteSmall, secondSmall, nanosecondSmall⟩
  have dash : ∀ text, trimStart ('-' :: text) = '-' :: text := fun _ => trimStart_cons (by decide)
  have colon : ∀ text, trimStart (':' :: text) = ':' :: text := fun _ => trimStart_cons (by decide)
  have dashEnds : ∀ text, endsDigits ('-' :: text) := fun _ => endsDigits_cons (by decide)
  have markEnds : ∀ text, endsDigits ('T' :: text) := fun _ => endsDigits_cons (by decide)
  have colonEnds : ∀ text, endsDigits (':' :: text) := fun _ => endsDigits_cons (by decide)
  have zoneEnds : endsDigits ['Z'] := endsDigits_cons (by decide)
  have secondEnds : endsDigits (fractionText timestamp.nanosecond ++ ['Z']) := by
    unfold fractionText
    repeat' split
    all_goals exact endsDigits_cons (by decide)
  have zone : takeRelaxedOffset? ['Z'] = some (0, []) := by decide
  simp only [readRelaxed?, dataText, String.toList_ofList, readRelaxedChars?, localText,
    List.append_assoc, List.cons_append, takeRelaxedYear?_yearText, Option.bind_eq_bind,
    Option.bind_some, dash, colon, skip?, skipTimeMark?, if_true,
    takeRelaxed?_padded monthSmall (dashEnds _), takeRelaxed?_padded daySmall (markEnds _),
    takeRelaxed?_padded (by omega : timestamp.hour < 100) (colonEnds _),
    takeRelaxed?_padded (by omega : timestamp.minute < 100) (colonEnds _),
    takeRelaxed?_padded (by omega : timestamp.second < 100) secondEnds,
    takeFraction?_fractionText nanosecondSmall zoneEnds (by decide), zone, List.all_nil]
  exact ofFields?_fields timestamp

end Timestamp

end MemoryKeeper

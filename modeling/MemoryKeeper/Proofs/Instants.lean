import MemoryKeeper.Proofs.Blanks
import MemoryKeeper.Proofs.Timestamps
import Mathlib.Tactic.Ring

/-!
# Displayed timestamps

The strict grammar has a year of four digits, so it reads a displayed timestamp
back exactly if its year is one from 0 to 9999. An accepted text names such a
year, but its clock may be ahead of UTC or behind it. In UTC it is then the day
before or the day after, and only at the two ends of these years does that day
lie outside them.
-/

namespace MemoryKeeper

theorem Decimal.ofDigitChars_lt {digits : List Char}
    (allDigits : ∀ character ∈ digits, character.isDigit) (start : ℕ) :
    Nat.ofDigitChars 10 digits start < (start + 1) * 10 ^ digits.length := by
  induction digits generalizing start with
  | nil => simp
  | cons digit digits ih =>
      have isDigit : digit.isDigit := allDigits digit List.mem_cons_self
      have small : digit.toNat - '0'.toNat ≤ 9 := by
        simp only [Char.isDigit, Bool.and_eq_true, decide_eq_true_eq] at isDigit
        have greatest : digit.toNat ≤ 57 := isDigit.2
        simp only [Char.reduceToNat]
        omega
      have later := ih (fun character present => allDigits character (by simp [present]))
        (10 * start + (digit.toNat - '0'.toNat))
      calc Nat.ofDigitChars 10 (digit :: digits) start
          = Nat.ofDigitChars 10 digits (10 * start + (digit.toNat - '0'.toNat)) :=
            Nat.ofDigitChars_cons
        _ < (10 * start + (digit.toNat - '0'.toNat) + 1) * 10 ^ digits.length := later
        _ ≤ (10 * (start + 1)) * 10 ^ digits.length := by
            apply Nat.mul_le_mul_right
            omega
        _ = (start + 1) * 10 ^ (digit :: digits).length := by
            rw [List.length_cons, Nat.pow_succ]
            ring

namespace Date

/-- The last day before the year 0. -/
def lastBefore : Date := ⟨-1, 12, 31, by decide⟩

/-- The first day after the year 9999. -/
def firstAfter : Date := ⟨10000, 1, 1, by decide⟩

/-- Whether the year of a date is written with four digits and no sign. -/
def HasPlainYear (date : Date) : Prop :=
  0 ≤ date.year ∧ date.year ≤ 9999

theorem previous_cases {date : Date} (plain : date.HasPlainYear) :
    date.previous.HasPlainYear ∨ date.previous = lastBefore := by
  rcases plain with ⟨least, greatest⟩
  unfold previous
  split
  · exact .inl ⟨least, greatest⟩
  · split
    · exact .inl ⟨least, greatest⟩
    · by_cases first : date.year = 0
      · right
        simp [lastBefore, first]
      · left
        constructor <;> simp only <;> omega

theorem next_cases {date : Date} (plain : date.HasPlainYear) :
    date.next.HasPlainYear ∨ date.next = firstAfter := by
  rcases plain with ⟨least, greatest⟩
  unfold next
  split
  · exact .inl ⟨least, greatest⟩
  · split
    · exact .inl ⟨least, greatest⟩
    · by_cases last : date.year = 9999
      · right
        simp [firstAfter, last]
      · left
        constructor <;> simp only <;> omega

end Date

namespace Timestamp

open MemoryKeeper.Text

theorem takeFixed?_padded {width value : ℕ} (positive : 0 < width) (fits : value < 10 ^ width)
    (rest : List Char) : takeFixed? width (padded width value ++ rest) = some (value, rest) := by
  have length := length_padded positive fits
  have taken : (padded width value ++ rest).take width = padded width value :=
    List.take_left' length
  have dropped : (padded width value ++ rest).drop width = rest := List.drop_left' length
  have allDigits : (padded width value).all Char.isDigit := by
    rw [List.all_eq_true]
    intro _ present
    exact isDigit_of_mem_padded present
  simp [takeFixed?, taken, dropped, length, allDigits]

theorem lt_of_takeFixed? {width value : ℕ} {text rest : List Char}
    (taken : takeFixed? width text = some (value, rest)) : value < 10 ^ width := by
  simp only [takeFixed?] at taken
  split at taken
  · next fixed =>
      rcases fixed with ⟨length, allDigits⟩
      cases taken
      have bounded := Decimal.ofDigitChars_lt (List.all_eq_true.mp allDigits) 0
      rw [length, Nat.zero_add, Nat.one_mul] at bounded
      rwa [Decimal.valueOfDigits_eq_ofDigitChars]
  · cases taken

theorem takeFixed?_of_sign {sign : Char} (isSign : sign.isDigit = false) (width : ℕ)
    (rest : List Char) : takeFixed? (width + 1) (sign :: rest) = none := by
  simp [takeFixed?, isSign]

theorem skip?_self (mark : Char) (rest : List Char) : skip? mark (mark :: rest) = some rest :=
  if_pos rfl

theorem yearText_of_plain {timestamp : Timestamp} (plain : timestamp.date.HasPlainYear) :
    yearText timestamp.date.year = padded 4 timestamp.date.year.toNat :=
  if_pos plain

/-- A year outside the plain ones is written behind its sign. -/
theorem exists_sign_of_not_plain {timestamp : Timestamp}
    (notPlain : ¬timestamp.date.HasPlainYear) :
    ∃ sign rest, yearText timestamp.date.year = sign :: rest ∧ sign.isDigit = false := by
  refine ⟨_, _, if_neg notPlain, ?_⟩
  split <;> decide

theorem localText_of_yearText {timestamp : Timestamp} {first : Char} {rest : List Char}
    (shape : yearText timestamp.date.year = first :: rest) :
    ∃ behind, timestamp.localText = first :: behind := by
  rw [localText, shape]
  exact ⟨_, rfl⟩

theorem exists_ink_yearText (year : ℤ) :
    ∃ first rest, yearText year = first :: rest ∧ isBlank first = false := by
  unfold yearText
  split
  · rcases List.exists_cons_of_ne_nil (padded_ne_nil 4 year.toNat) with ⟨first, rest, shape⟩
    have digit : first.isDigit := isDigit_of_mem_padded (by rw [shape]; exact List.mem_cons_self)
    exact ⟨first, rest, shape, isBlank_of_isDigit digit⟩
  · refine ⟨_, _, rfl, ?_⟩
    split <;> decide

variable (timestamp : Timestamp)

/-- There is no blank at either end of what is displayed. -/
theorem trim_display : trim timestamp.display.toList =
    timestamp.localText ++ ['+', '0', '0', ':', '0', '0'] := by
  rcases exists_ink_yearText timestamp.date.year with ⟨first, rest, year, ink⟩
  rcases localText_of_yearText year with ⟨behind, shape⟩
  rw [display, String.toList_ofList, shape]
  simpa using trim_bounded ink (by decide : isBlank '0' = false)
    (behind ++ ['+', '0', '0', ':', '0'])

theorem readStrictChars?_localText (plain : timestamp.date.HasPlainYear) :
    readStrictChars? (timestamp.localText ++ ['+', '0', '0', ':', '0', '0']) =
      some timestamp := by
  have yearFits : timestamp.date.year.toNat < 10 ^ 4 := by
    have := plain.2
    omega
  have yearKept : (timestamp.date.year.toNat : ℤ) = timestamp.date.year :=
    Int.toNat_of_nonneg plain.1
  have monthFits : timestamp.date.month < 10 ^ 2 := by
    have := timestamp.date.exists_day.2.1
    omega
  have dayFits : timestamp.date.day < 10 ^ 2 := by
    have := timestamp.date.exists_day.2.2.2
    have := daysInMonth_le timestamp.date.year timestamp.date.month
    omega
  rcases timestamp.exists_time with ⟨hourFits, minuteFits, secondFits, nanosecondFits⟩
  have pair : ∀ {value : ℕ}, value < 10 ^ 2 → ∀ rest,
      takeFixed? 2 (padded 2 value ++ rest) = some (value, rest) := by
    intro value fits rest
    exact takeFixed?_padded (by decide) fits rest
  have offsetEnds : endsDigits ['+', '0', '0', ':', '0', '0'] := endsDigits_cons (by decide)
  have offset : takeOffset? (skip? ':') ['+', '0', '0', ':', '0', '0'] = some (0, []) := by decide
  rw [localText, yearText_of_plain plain]
  simp only [List.append_assoc, List.cons_append]
  -- the fields are taken in the order in which they are written, each behind its mark
  refine Option.bind_eq_some_iff.mpr ⟨_, takeFixed?_padded (by decide) yearFits _, ?_⟩
  refine Option.bind_eq_some_iff.mpr ⟨_, skip?_self '-' _, ?_⟩
  refine Option.bind_eq_some_iff.mpr ⟨_, pair monthFits _, ?_⟩
  refine Option.bind_eq_some_iff.mpr ⟨_, skip?_self '-' _, ?_⟩
  refine Option.bind_eq_some_iff.mpr ⟨_, pair dayFits _, ?_⟩
  refine Option.bind_eq_some_iff.mpr ⟨_, rfl, ?_⟩
  refine Option.bind_eq_some_iff.mpr ⟨_, pair (by omega : timestamp.hour < 10 ^ 2) _, ?_⟩
  refine Option.bind_eq_some_iff.mpr ⟨_, skip?_self ':' _, ?_⟩
  refine Option.bind_eq_some_iff.mpr ⟨_, pair (by omega : timestamp.minute < 10 ^ 2) _, ?_⟩
  refine Option.bind_eq_some_iff.mpr ⟨_, skip?_self ':' _, ?_⟩
  refine Option.bind_eq_some_iff.mpr ⟨_, pair (by omega : timestamp.second < 10 ^ 2) _, ?_⟩
  refine Option.bind_eq_some_iff.mpr
    ⟨_, takeFraction?_fractionText nanosecondFits offsetEnds (by decide), ?_⟩
  refine Option.bind_eq_some_iff.mpr ⟨_, offset, ?_⟩
  simp only [List.isEmpty_nil, if_true, yearKept]
  exact ofFields?_fields timestamp

theorem read?_display_of_plain (plain : timestamp.date.HasPlainYear) :
    read? timestamp.display = some timestamp := by
  rw [read?, trim_display, readStrictChars?_localText timestamp plain]

theorem read?_display_of_not_plain (notPlain : ¬timestamp.date.HasPlainYear) :
    read? timestamp.display = none := by
  rcases exists_sign_of_not_plain notPlain with ⟨sign, rest, year, isSign⟩
  rcases localText_of_yearText year with ⟨behind, shape⟩
  rw [read?, trim_display, shape, List.cons_append, readStrictChars?, takeFixed?_of_sign isSign]
  rfl

variable {timestamp}

/-- A change of the clock by less than a day changes the date by one day at most. -/
theorem date_of_ofLocal? {date : Date} {hour minute second nanosecond : ℕ} {ahead : ℤ}
    (found : ofLocal? date hour minute second nanosecond ahead = some timestamp) :
    timestamp.date = date.previous ∨ timestamp.date = date ∨ timestamp.date = date.next := by
  simp only [ofLocal?, Option.dite_none_right_eq_some, Option.some.injEq] at found
  rcases found with ⟨_, _, rfl⟩
  simp only
  split
  · exact .inl rfl
  · split
    · exact .inr (.inr rfl)
    · exact .inr (.inl rfl)

/-- An accepted text begins with four digits, and they are the year of its fields. -/
theorem exists_fields_of_readStrictChars? {text : List Char}
    (accepted : readStrictChars? text = some timestamp) :
    ∃ (year month day hour minute second nanosecond : ℕ) (ahead : ℤ), year < 10 ^ 4 ∧
      ofFields? year month day hour minute second nanosecond ahead = some timestamp := by
  rcases Option.bind_eq_some_iff.mp accepted with ⟨⟨year, _⟩, yearTaken, accepted⟩
  rcases Option.bind_eq_some_iff.mp accepted with ⟨_, -, accepted⟩
  rcases Option.bind_eq_some_iff.mp accepted with ⟨⟨month, _⟩, -, accepted⟩
  rcases Option.bind_eq_some_iff.mp accepted with ⟨_, -, accepted⟩
  rcases Option.bind_eq_some_iff.mp accepted with ⟨⟨day, _⟩, -, accepted⟩
  rcases Option.bind_eq_some_iff.mp accepted with ⟨_, -, accepted⟩
  rcases Option.bind_eq_some_iff.mp accepted with ⟨⟨hour, _⟩, -, accepted⟩
  rcases Option.bind_eq_some_iff.mp accepted with ⟨_, -, accepted⟩
  rcases Option.bind_eq_some_iff.mp accepted with ⟨⟨minute, _⟩, -, accepted⟩
  rcases Option.bind_eq_some_iff.mp accepted with ⟨_, -, accepted⟩
  rcases Option.bind_eq_some_iff.mp accepted with ⟨⟨second, _⟩, -, accepted⟩
  rcases Option.bind_eq_some_iff.mp accepted with ⟨⟨nanosecond, _⟩, -, accepted⟩
  rcases Option.bind_eq_some_iff.mp accepted with ⟨⟨ahead, _⟩, -, fields⟩
  have fields := (Option.ite_none_right_eq_some.mp fields).2
  exact ⟨_, _, _, _, _, _, _, _, lt_of_takeFixed? yearTaken, fields⟩

theorem exists_date_of_readStrictChars? {text : List Char}
    (accepted : readStrictChars? text = some timestamp) :
    ∃ date : Date, date.HasPlainYear ∧
      (timestamp.date = date.previous ∨ timestamp.date = date ∨ timestamp.date = date.next) := by
  rcases exists_fields_of_readStrictChars? accepted with
    ⟨year, month, day, hour, minute, second, nanosecond, ahead, yearFits, fields⟩
  simp only [ofFields?, Option.bind_eq_bind] at fields
  split at fields
  · cases fields
  · rcases Option.bind_eq_some_iff.mp fields with ⟨date, isDate, found⟩
    simp only [Date.ofFields?] at isDate
    split at isDate
    · cases isDate
      refine ⟨_, ?_, date_of_ofLocal? found⟩
      constructor <;> simp only <;> omega
    · cases isDate

/-- What was read of a text has a plain year, or it is one of the two days next to them. -/
theorem date_of_read? {text : String} (accepted : read? text = some timestamp) :
    timestamp.date.HasPlainYear ∨ timestamp.date = .lastBefore ∨ timestamp.date = .firstAfter := by
  rcases exists_date_of_readStrictChars? accepted with ⟨date, plain, before | same | after⟩
  · rw [before]
    exact (Date.previous_cases plain).imp_right .inl
  · rw [same]
    exact .inl plain
  · rw [after]
    exact (Date.next_cases plain).imp_right .inr

/-- An accepted timestamp reads back from its displayed form exactly if its year in UTC is one from
0 to 9999. Otherwise the displayed form is refused, and the timestamp lies on the last day before
these years or on the first day after them. -/
theorem read?_display_eq_self_iff {text : String} (accepted : read? text = some timestamp) :
    (read? timestamp.display = some timestamp ↔
        0 ≤ timestamp.date.year ∧ timestamp.date.year ≤ 9999) ∧
      (read? timestamp.display ≠ some timestamp →
        read? timestamp.display = none ∧
          (timestamp.date = .lastBefore ∨ timestamp.date = .firstAfter)) := by
  by_cases plain : timestamp.date.HasPlainYear
  · have back := read?_display_of_plain timestamp plain
    refine ⟨⟨fun _ => plain, fun _ => back⟩, ?_⟩
    intro different
    exact absurd back different
  · have refused := read?_display_of_not_plain timestamp plain
    have outside := (date_of_read? accepted).resolve_left plain
    refine ⟨⟨?_, ?_⟩, fun _ => ⟨refused, outside⟩⟩
    · intro back
      rw [refused] at back
      cases back
    · intro within
      exact absurd within plain

/-- A leap second that is one of the next year in UTC keeps nine digits of its fraction and reads
back; a second of the last minute of the year 9999 can be one of a year that does not. -/
theorem read?_display_eq_self_iff_of_new_year :
    let inside : Timestamp := ⟨⟨2000, 1, 1, by decide⟩, 0, 29, 60, 123456789, by decide, by decide⟩
    let outside : Timestamp := ⟨.firstAfter, 0, 0, 59, 0, by decide, by decide⟩
    read? "1999-12-31T23:59:60.1234567899-00:30" = some inside ∧
      read? inside.display = some inside ∧
      read? "9999-12-31T23:59:59-00:01" = some outside ∧
      outside.display = "+10000-01-01T00:00:59+00:00" ∧ read? outside.display = none := by
  intro inside outside
  have acceptedInside : read? "1999-12-31T23:59:60.1234567899-00:30" = some inside := by
    decide +kernel
  have acceptedOutside : read? "9999-12-31T23:59:59-00:01" = some outside := by
    decide +kernel
  have different : read? outside.display ≠ some outside := by
    intro back
    exact absurd ((read?_display_eq_self_iff acceptedOutside).1.mp back).2 (by decide)
  refine ⟨acceptedInside, ?_, acceptedOutside, by decide +kernel, ?_⟩
  · exact (read?_display_eq_self_iff acceptedInside).1.mpr ⟨by decide, by decide⟩
  · exact ((read?_display_eq_self_iff acceptedOutside).2 different).1

end Timestamp

end MemoryKeeper

/-!
# Calendar dates

Dates of the proleptic Gregorian calendar, with a year zero. A date is kept as
year, month and day; the day before and the day after are computed on these
fields, which is all that a change of time zone needs.
-/

namespace MemoryKeeper

/-- Whether a year has a 29th of February. -/
def isLeapYear (year : Int) : Bool :=
  (year % 4 = 0 && year % 100 ≠ 0) || year % 400 = 0

/-- The number of days of a month. -/
def daysInMonth (year : Int) (month : Nat) : Nat :=
  if month = 2 then (if isLeapYear year then 29 else 28)
  else if month = 4 ∨ month = 6 ∨ month = 9 ∨ month = 11 then 30
  else 31

theorem daysInMonth_pos (year : Int) (month : Nat) : 1 ≤ daysInMonth year month := by
  unfold daysInMonth
  split
  · split <;> omega
  · split <;> omega

def IsDate (year : Int) (month day : Nat) : Prop :=
  1 ≤ month ∧ month ≤ 12 ∧ 1 ≤ day ∧ day ≤ daysInMonth year month

instance (year : Int) (month day : Nat) : Decidable (IsDate year month day) :=
  inferInstanceAs (Decidable (_ ∧ _))

/-- A day of the calendar. -/
structure Date where
  year : Int
  month : Nat
  day : Nat
  exists_day : IsDate year month day
  deriving DecidableEq

namespace Date

instance : Repr Date where
  reprPrec date precedence := reprPrec (date.year, date.month, date.day) precedence

/-- The day of the given fields, if it exists. -/
def ofFields? (year : Int) (month day : Nat) : Option Date :=
  if exists_day : IsDate year month day then some ⟨year, month, day, exists_day⟩ else none

def next (date : Date) : Date :=
  if within : date.day + 1 ≤ daysInMonth date.year date.month then
    ⟨date.year, date.month, date.day + 1,
      date.exists_day.1, date.exists_day.2.1, by omega, within⟩
  else if before : date.month < 12 then
    ⟨date.year, date.month + 1, 1, by omega, by omega, by omega, daysInMonth_pos _ _⟩
  else ⟨date.year + 1, 1, 1, by omega, by omega, by omega, daysInMonth_pos _ _⟩

def previous (date : Date) : Date :=
  if within : 1 < date.day then
    ⟨date.year, date.month, date.day - 1,
      date.exists_day.1, date.exists_day.2.1, by omega,
      Nat.le_trans (Nat.sub_le _ _) date.exists_day.2.2.2⟩
  else if after : 1 < date.month then
    ⟨date.year, date.month - 1, daysInMonth date.year (date.month - 1),
      by omega, Nat.le_trans (Nat.sub_le _ _) date.exists_day.2.1,
      daysInMonth_pos _ _, Nat.le_refl _⟩
  else ⟨date.year - 1, 12, 31, by omega, by omega, by omega, by simp [daysInMonth]⟩

end Date

end MemoryKeeper

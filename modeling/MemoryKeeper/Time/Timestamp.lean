import MemoryKeeper.Time.Date

/-!
# Points in time

A timestamp is a point in time in UTC, to the nanosecond. The second of a minute
may be 60: a leap second is kept as it was given, whatever minute it stands in.
The fields are kept normalized, so two timestamps are equal exactly if they are
the same point with the same leap second. Years from -262143 to 262142 can be
stored; there is no timestamp outside them.

The written form has a fraction of three, six or nine digits, whichever is the
fewest that loses nothing, and none for a whole second. A year outside 0 to 9999
is written with its sign and at least four digits.
-/

namespace MemoryKeeper

/-- Whether a time of day exists; the last second is a leap second. -/
def IsTimeOfDay (hour minute second nanosecond : Nat) : Prop :=
  hour < 24 ∧ minute < 60 ∧ second ≤ 60 ∧ nanosecond < 1000000000

instance (hour minute second nanosecond : Nat) :
    Decidable (IsTimeOfDay hour minute second nanosecond) :=
  inferInstanceAs (Decidable (_ ∧ _))

/-- Whether a year can be stored. -/
def isStorableYear (year : Int) : Bool :=
  -262143 ≤ year && year ≤ 262142

/-- A point in time in UTC. -/
structure Timestamp where
  date : Date
  hour : Nat
  minute : Nat
  second : Nat
  nanosecond : Nat
  exists_time : IsTimeOfDay hour minute second nanosecond
  storable : isStorableYear date.year
  deriving DecidableEq

namespace Timestamp

/-- The start of the year 1970. -/
def epoch : Timestamp :=
  ⟨⟨1970, 1, 1, by decide⟩, 0, 0, 0, 0, by decide, by decide⟩

/-- A number with zeros before it up to a width. -/
def padded (width value : Nat) : List Char :=
  let digits := Nat.toDigits 10 value
  List.replicate (width - digits.length) '0' ++ digits

def yearText (year : Int) : List Char :=
  if 0 ≤ year ∧ year ≤ 9999 then padded 4 year.toNat
  else (if year < 0 then '-' else '+') :: padded 4 year.natAbs

/-- A fraction of a second as it is written. -/
def fractionText (nanosecond : Nat) : List Char :=
  if nanosecond = 0 then []
  else if nanosecond % 1000000 = 0 then '.' :: padded 3 (nanosecond / 1000000)
  else if nanosecond % 1000 = 0 then '.' :: padded 6 (nanosecond / 1000)
  else '.' :: padded 9 nanosecond

/-- The written form up to the offset. -/
def localText (timestamp : Timestamp) : List Char :=
  yearText timestamp.date.year ++ '-' :: padded 2 timestamp.date.month ++
    '-' :: padded 2 timestamp.date.day ++ 'T' :: padded 2 timestamp.hour ++
    ':' :: padded 2 timestamp.minute ++ ':' :: padded 2 timestamp.second ++
    fractionText timestamp.nanosecond

/-- The form for display, with a numeric offset. -/
def display (timestamp : Timestamp) : String :=
  String.ofList (timestamp.localText ++ ['+', '0', '0', ':', '0', '0'])

/-- The form in data and document headers, with the letter for UTC. -/
def dataText (timestamp : Timestamp) : String :=
  String.ofList (timestamp.localText ++ ['Z'])

instance : Repr Timestamp where
  reprPrec timestamp _ := timestamp.display

/-- The point in time of a local date and time whose clock is ahead of UTC by some minutes, fewer
than a day has; none if it falls out of the storable years. -/
def ofLocal? (date : Date) (hour minute second nanosecond : Nat) (ahead : Int) :
    Option Timestamp :=
  let minutes : Int := hour * 60 + minute - ahead
  let (date, minutes) :=
    if minutes < 0 then (date.previous, minutes + 1440)
    else if 1440 ≤ minutes then (date.next, minutes - 1440)
    else (date, minutes)
  let minuteOfDay := minutes.toNat
  if exists_time : IsTimeOfDay (minuteOfDay / 60) (minuteOfDay % 60) second nanosecond then
    if storable : isStorableYear date.year then
      some ⟨date, minuteOfDay / 60, minuteOfDay % 60, second, nanosecond, exists_time, storable⟩
    else none
  else none

end Timestamp

end MemoryKeeper

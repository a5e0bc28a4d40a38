/-!
# Lookback depths

Searches and histories look back a number of commits that comes from a fixed
list of Fibonacci numbers.
-/

namespace MemoryKeeper

/-- The legal depths in ascending order. -/
def legalDepths : List Nat :=
  [1, 2, 3, 5, 8, 13, 21, 34]

/-- A number of commits to look back. -/
structure Depth where
  value : Nat
  legal : value ∈ legalDepths
  deriving DecidableEq

namespace Depth

instance : Repr Depth where
  reprPrec depth precedence := reprPrec depth.value precedence

/-- The depth of a number, if it is a legal one. -/
def ofNat? (value : Nat) : Option Depth :=
  if legal : value ∈ legalDepths then some ⟨value, legal⟩ else none

@[simp]
theorem ofNat?_value (depth : Depth) : ofNat? depth.value = some depth := by
  simp [ofNat?, depth.legal]

/-- The depth of a command that names none. -/
def standard : Depth :=
  ⟨2, by decide⟩

/-- The legal depths with commas between them. -/
def legalList : String :=
  ", ".intercalate (legalDepths.map Nat.repr)

end Depth

end MemoryKeeper

import Crosstab.Value

/-!
# Sets of pivot values

The distinct values of the pivot column in the order of their discovery, and the number of NULLs
that were met on the way. A value enters the set unless an equal one is in it.
-/

namespace Crosstab

/-- A snapshot of the pivot column. -/
structure ValueSet where
  values : List Value
  skippedNulls : Nat

namespace ValueSet

/-- Nothing discovered yet. -/
def empty : ValueSet := ⟨[], 0⟩

/-- An equal value is in the set. -/
def contains (set : ValueSet) (value : Value) : Bool := set.values.any fun other => other.same value

/-- Adds a value behind the others unless an equal one is there, and says whether it was added. -/
def insert (set : ValueSet) (value : Value) : Bool × ValueSet :=
  if set.contains value then (false, set)
  else (true, { set with values := set.values ++ [value] })

/-- Counts a NULL. -/
def skipNull (set : ValueSet) : ValueSet := { set with skippedNulls := set.skippedNulls + 1 }

/-- The set of the values of a list. -/
def ofList (values : List Value) : ValueSet :=
  values.foldl (fun set value => (set.insert value).2) empty

/-- The number of values. -/
def size (set : ValueSet) : Nat := set.values.length

/-- There is no value. -/
def isEmpty (set : ValueSet) : Bool := set.values.isEmpty

end ValueSet

end Crosstab

import Crosstab.Decimal.Layout

/-!
# Pivot values

One distinct value of the pivot column, with the type it was stored as. Numbers stay numbers:
the statement compares them as numbers, and an integer never becomes the text that spells it.

    value ──label──▶ the text that names a column
-/

namespace Crosstab

/-- A value of the pivot column. -/
inductive Value where
  | integer (n : Int64)
  | real (x : Binary64)
  | text (s : String)
deriving DecidableEq

namespace Value

/-- How a real is written in labels and in statements: positional from 10⁻⁴ to below 10¹⁶. -/
def realLayout : Decimal.Layout where
  leastPositional := -4
  greatestPositional := 15
  exponentSign := ""
  tie := .up
  notANumber := "NaN"
  infinity := "inf"
  negativeInfinity := "-inf"

/-- The text by which the value is known as a column. -/
def label : Value → String
  | .integer n => toString n.toInt
  | .real x => realLayout.write x
  | .text s => s

/-- Equality by type; reals are equal as IEEE numbers, so the zeros are and NaN is not. -/
def same : Value → Value → Bool
  | .integer m, .integer n => m == n
  | .real x, .real y => x.same y
  | .text s, .text t => s == t
  | _, _ => false

end Value

end Crosstab

/-!
# Cross-tabulation specs

The five names that determine one cross-tabulation: where the rows come from, where the result
goes, and the parts that three columns of the source play in it.

    source rows ──group by rowKey, spread pivot, take the greatest value──▶ target rows
-/

namespace Crosstab

/-- What a directive asks for. Table names may be qualified with dots. -/
structure Spec where
  /-- The temporary table that holds the result. -/
  target : String
  /-- The table that the rows are read from. -/
  source : String
  /-- The group key: one row of the result per distinct value. -/
  rowKey : String
  /-- The column whose distinct values become columns of the result. -/
  pivot : String
  /-- The column that fills the cells of the result. -/
  value : String
deriving DecidableEq, Repr

end Crosstab

/-!
# Statement errors

Why no statement can be built for a set of pivot values: a value has no name as a column, or two
values would have the same one.
-/

namespace Crosstab.Sql

/-- Why a statement cannot be built. -/
inductive StatementError where
  /-- The value would be a column without a name. -/
  | emptyColumnName (value : String)
  /-- Two values, or the group key and a value, would be the same column. -/
  | duplicateColumn (column first second : String)
  /-- The value cannot be written as a bare name. -/
  | invalidIdentifier (value : String)
deriving DecidableEq, Repr

/-- What is shown of an error. -/
def StatementError.message : StatementError → String
  | .emptyColumnName value => s!"Pivot value '{value}' yields an empty column name"
  | .duplicateColumn column first second =>
    s!"Pivot values '{first}' and '{second}' both map to column '{column}'"
  | .invalidIdentifier value => s!"Pivot value '{value}' is not a valid bare identifier"

end Crosstab.Sql

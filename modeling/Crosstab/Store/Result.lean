import Crosstab.Json.Basic

/-!
# Query results

The rows of a query as JSON cells. A row may be longer or shorter than the list of columns; only
the cells that have a column count in its record.
-/

namespace Crosstab.Store

/-- What a query gives. -/
structure QueryResult where
  /-- The names of the columns in order. -/
  columns : List String
  rows : List (List Json)

namespace QueryResult

/-- No columns and no rows. -/
def empty : QueryResult := ⟨[], []⟩

/-- The first cell of every row that has one. -/
def firstColumn (result : QueryResult) : List Json := result.rows.filterMap List.head?

/-- The record of a row: its cells by the names of their columns, sorted by name. Of columns with
the same name the last counts. -/
def record (columns : List String) (row : List Json) : Json := Json.sortedObject (columns.zip row)

/-- The records of all rows. -/
def toRecords (result : QueryResult) : List Json := result.rows.map (record result.columns)

end QueryResult

end Crosstab.Store

import Crosstab.Engine.Catalog
import Crosstab.Engine.Error

/-!
# Relations

What a query reads: columns, and rows with their numbers. A relation may have columns that can be
asked for by name but are not shown with the others.
-/

namespace Crosstab.Engine

/-- A row with its number in the table. -/
structure Row where
  number : Nat
  /-- The cells of the columns; NULLs at the end may be left out. -/
  cells : List Cell
deriving DecidableEq

/-- Columns and rows that a query reads. -/
structure Relation where
  columns : List Column
  /-- The columns that are not shown. -/
  hidden : List Column := []
  rows : List Row
  /-- Why the rows cannot be read, although the columns are known. -/
  fault : Option EngineError := none
  /-- The column whose distinct cells are found in ascending order. -/
  ordered : Option Nat := none
deriving DecidableEq

/-- The rows of a table with their numbers, which start at one. -/
def numbered (rows : List (List Cell)) : List Row :=
  rows.zipIdx.map fun entry => ⟨entry.2 + 1, entry.1⟩

/-- A table that was created, as a relation. -/
def Table.relation (table : Table) : Relation :=
  { columns := table.columns, rows := numbered table.rows }

namespace Relation

/-- All columns, those that are not shown behind the others. -/
def allColumns (relation : Relation) : List Column := relation.columns ++ relation.hidden

/-- The position of the column of a name. -/
def column? (relation : Relation) (name : String) : Option Nat :=
  relation.allColumns.findIdx? fun column => Text.sameButCase column.name name

/-- The affinity of the column at a position. -/
def affinity (relation : Relation) (index : Nat) : Affinity :=
  match relation.allColumns[index]? with
  | some column => column.affinity
  | none => .none

/-- The cells that are shown, row by row. -/
def shownRows (relation : Relation) : List (List Cell) :=
  relation.rows.map fun row => row.cells.take relation.columns.length

end Relation

end Crosstab.Engine

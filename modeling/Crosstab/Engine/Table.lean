import Crosstab.Engine.Storage.Record
import Crosstab.Text.AsciiCase

/-!
# Tables

Named columns, and rows of cells in the order of their insertion. A column converts what is stored
in it. Names compare without ASCII case.
-/

namespace Crosstab.Engine

/-- A column of a table. -/
structure Column where
  name : String
  affinity : Affinity
deriving DecidableEq, Repr

/-- A column without a type. -/
def Column.plain (name : String) : Column := ⟨name, .none⟩

/-- A table with its rows in the order of their insertion. -/
structure Table where
  name : String
  columns : List Column
  rows : List (List Cell)
deriving DecidableEq

namespace Table

/-- The table has this name. -/
def isNamed (table : Table) (name : String) : Bool := Text.sameButCase table.name name

/-- A row as it is stored, each cell converted as its column asks. -/
def storedRow (table : Table) (row : List Cell) : List Cell :=
  List.zipWith (fun column cell => column.affinity.convert cell) table.columns row

/-- The table with more rows. -/
def addRows (table : Table) (rows : List (List Cell)) : Table :=
  { table with rows := table.rows ++ rows.map table.storedRow }

/-- The size of the record of a stored row. -/
def payload (table : Table) (row : List Cell) : Nat :=
  Storage.payloadSize
    (List.zipWith (fun column cell => Storage.Stored.ofColumn column.affinity cell)
      table.columns row)

end Table

end Crosstab.Engine

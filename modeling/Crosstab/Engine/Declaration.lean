import Crosstab.Engine.Keyword
import Crosstab.Engine.Table
import Crosstab.Sql.Quote

/-!
# Declarations of tables

The statement that a database shows for each of its tables. Tables that outlive a connection were
created by statements that list their columns. The others come from queries, and the statement is
made up for them: names without quotes where that is possible, types after the affinities, and a
line for each column if the names are long.
-/

namespace Crosstab.Engine

/-- The type behind the name of a column that is listed. -/
def Affinity.declared : Affinity → String
  | .none => ""
  | .text => " TEXT"
  | .integer => " INTEGER"
  | .real => " REAL"
  | .numeric => " NUMERIC"

/-- The type behind the name of a column of a query. -/
def Affinity.implied : Affinity → String
  | .none => ""
  | .text => " TEXT"
  | .integer => " INT"
  | .real => " REAL"
  | .numeric => " NUM"

/-- A name that needs no quotes. -/
def isPlainName (name : String) : Bool :=
  let cs := name.toList
  !cs.isEmpty && cs.all (fun c => c.isAlphanum || c == '_') && !cs.head?.any Char.isDigit &&
    !isKeyword name

/-- A name in quotes if it needs them. -/
def writtenName (name : String) : String := if isPlainName name then name else Sql.quoteName name

/-- The statement that creates a table by listing its columns. -/
def Table.declaration (table : Table) : String :=
  let columns := table.columns.map fun column =>
    Sql.quoteName column.name ++ column.affinity.declared
  "CREATE TABLE " ++ Sql.quoteName table.name ++ " (" ++ ", ".intercalate columns ++ ")"

/-- The statement that would create the table of a query. -/
def Table.impliedDeclaration (table : Table) : String :=
  let quotedSize (name : String) : Nat := (Sql.quoteName name).utf8ByteSize
  let size := Storage.total (table.columns.map fun column => quotedSize column.name + 5)
  let long := decide (50 ≤ size + quotedSize table.name)
  let columns := table.columns.map fun column => writtenName column.name ++ column.affinity.implied
  let (opening, separator, closing) := if long then ("(\n  ", ",\n  ", "\n)") else ("(", ",", ")")
  "CREATE TABLE " ++ writtenName table.name ++ opening ++ separator.intercalate columns ++ closing

end Crosstab.Engine

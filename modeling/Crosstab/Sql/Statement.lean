import Crosstab.Spec
import Crosstab.Sql.ColumnNaming
import Crosstab.Sql.Dialect
import Crosstab.ValueSet

/-!
# The pivot statement

The statement that creates the result table: a header that selects the group key, one fragment
per pivot value, and a footer that groups.

    CREATE TEMP TABLE target AS SELECT row
      , MAX(CASE WHEN pivot = literal THEN value END) AS column     (once per pivot value)
      FROM source GROUP BY row

The columns must have different names, also from the group key, and the first value in order that
has no name or a name already taken decides the error.
-/

namespace Crosstab.Sql

/-- A statement in fragments, with the names of the columns that its values became. -/
structure Statement where
  fragments : List String
  columns : List String
deriving DecidableEq, Repr

namespace Statement

/-- The text of the statement. -/
def sql (statement : Statement) : String := String.join statement.fragments

/-- The number of fragments. -/
def fragmentCount (statement : Statement) : Nat := statement.fragments.length

/-- A statement is shown fragment by fragment. -/
instance : ToString Statement where
  toString statement := statement.fragments.foldl (fun shown fragment => shown ++ fragment) ""

end Statement

/-! ### Columns -/

/-- Names the columns of values in order; `taken` holds each name in use with what took it. -/
def claimNames (naming : ColumnNaming) (taken : List (String × String)) :
    List Value → Except StatementError (List String)
  | [] => .ok []
  | value :: values => do
    let label := value.label
    let column ← naming.columnName label
    match taken.lookup column with
    | some first => .error (.duplicateColumn column first label)
    | none => return column :: (← claimNames naming ((column, label) :: taken) values)

/-- The columns of a set of values. The group key is a column from the start. -/
def outputColumns (spec : Spec) (naming : ColumnNaming) (values : List Value) :
    Except StatementError (List String) :=
  claimNames naming [(spec.rowKey, spec.rowKey)] values

/-! ### Texts -/

/-- The start of the statement. -/
def header (spec : Spec) (dialect : Dialect) : String :=
  "CREATE TEMP TABLE " ++ quoteTable spec.target ++ " AS " ++
    (if dialect.wrapsQuery then "(" else "") ++ "SELECT " ++ quoteName spec.rowKey

/-- The column of one value. -/
def fragment (spec : Spec) (naming : ColumnNaming) (value : Value) (column : String) : String :=
  ", MAX(CASE WHEN " ++ quoteName spec.pivot ++ " = " ++ literal value ++ " THEN " ++
    quoteName spec.value ++ " END) AS " ++ naming.render column

/-- The end of the statement. -/
def footer (spec : Spec) (dialect : Dialect) : String :=
  " FROM " ++ quoteTable spec.source ++ " GROUP BY " ++ quoteName spec.rowKey ++
    (if dialect.wrapsQuery then ")" else "")

/-- Builds the statement for a set of values. -/
def build (spec : Spec) (dialect : Dialect) (naming : ColumnNaming) (values : ValueSet) :
    Except StatementError Statement := do
  let columns ← outputColumns spec naming values.values
  let cases := List.zipWith (fragment spec naming) values.values columns
  return { fragments := header spec dialect :: cases ++ [footer spec dialect], columns }

/-- The query for the distinct values of the pivot column. -/
def discoverySql (spec : Spec) : String :=
  "SELECT DISTINCT " ++ quoteName spec.pivot ++ " FROM " ++ quoteTable spec.source

/-- The statement that drops a table, given as it is to be written. -/
def dropSql (table : String) : String := "DROP TABLE IF EXISTS " ++ table

/-- The query for a whole table. -/
def wholeTableSql (name : String) : String := "SELECT * FROM " ++ quoteTable name

end Crosstab.Sql

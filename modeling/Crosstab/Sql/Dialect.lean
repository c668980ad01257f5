/-!
# SQL dialects

Both engines quote alike. They differ in one point of the statement: whether the query of a
`CREATE TABLE … AS` stands in parentheses.
-/

namespace Crosstab.Sql

/-- The SQL engine that a statement is written for. -/
inductive Dialect where
  | sqlite
  | postgres
deriving DecidableEq, Repr

namespace Dialect

/-- The name of the engine. -/
def displayName : Dialect → String
  | .sqlite => "SQLite"
  | .postgres => "PostgreSQL"

/-- The query that a table is created from stands in parentheses. -/
def wrapsQuery : Dialect → Bool
  | .sqlite => false
  | .postgres => true

end Dialect

end Crosstab.Sql

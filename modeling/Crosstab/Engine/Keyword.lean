import Crosstab.Text.AsciiCase

/-!
# Keywords of the engine

The words that mean something in the engine's grammar, in upper case; they are read in any case.
Some of them the grammar keeps for itself. The others are keywords only where one is expected, and
can be bare names elsewhere.
-/

namespace Crosstab.Engine

/-- The words that the grammar keeps for itself, so that they are no bare names. -/
def grammarWords : List String :=
  ["ADD", "ALL", "ALTER", "AND", "AS", "AUTOINCREMENT", "BETWEEN", "CASE", "CHECK", "COLLATE",
    "COMMIT", "CONSTRAINT", "CREATE", "DEFAULT", "DEFERRABLE", "DELETE", "DISTINCT", "DROP",
    "ELSE", "ESCAPE", "EXCEPT", "EXISTS", "FOREIGN", "FROM", "GROUP", "HAVING", "IN", "INDEX",
    "INSERT", "INTERSECT", "INTO", "IS", "ISNULL", "JOIN", "LIMIT", "NOT", "NOTHING", "NOTNULL",
    "NULL", "ON", "OR", "ORDER", "PRIMARY", "REFERENCES", "RETURNING", "SELECT", "SET", "TABLE",
    "THEN", "TO", "TRANSACTION", "UNION", "UNIQUE", "UPDATE", "USING", "VALUES", "WHEN", "WHERE"]

/-- The keywords that can be bare names. -/
def lentWords : List String :=
  ["ABORT", "ACTION", "AFTER", "ALWAYS", "ANALYZE", "ASC", "ATTACH", "BEFORE", "BEGIN", "BY",
    "CASCADE", "CAST", "COLUMN", "CONFLICT", "CROSS", "CURRENT", "CURRENT_DATE", "CURRENT_TIME",
    "CURRENT_TIMESTAMP", "DATABASE", "DEFERRED", "DESC", "DETACH", "DO", "EACH", "END", "EXCLUDE",
    "EXCLUSIVE", "EXPLAIN", "FAIL", "FILTER", "FIRST", "FOLLOWING", "FOR", "FULL", "GENERATED",
    "GLOB", "GROUPS", "IF", "IGNORE", "IMMEDIATE", "INDEXED", "INITIALLY", "INNER", "INSTEAD",
    "KEY", "LAST", "LEFT", "LIKE", "MATCH", "MATERIALIZED", "NATURAL", "NO", "NULLS", "OF",
    "OFFSET", "OTHERS", "OUTER", "OVER", "PARTITION", "PLAN", "PRAGMA", "PRECEDING", "QUERY",
    "RAISE", "RANGE", "RECURSIVE", "REGEXP", "REINDEX", "RELEASE", "RENAME", "REPLACE", "RESTRICT",
    "RIGHT", "ROLLBACK", "ROW", "ROWS", "SAVEPOINT", "TEMP", "TEMPORARY", "TIES", "TRIGGER",
    "UNBOUNDED", "VACUUM", "VIEW", "VIRTUAL", "WINDOW", "WITH", "WITHOUT"]

/-- A word that can be a bare name. -/
def isFreeWord (word : String) : Bool := !grammarWords.any fun kept => Text.sameButCase kept word

/-- A word of the grammar. -/
def isKeyword (word : String) : Bool :=
  (grammarWords ++ lentWords).any fun keyword => Text.sameButCase keyword word

end Crosstab.Engine

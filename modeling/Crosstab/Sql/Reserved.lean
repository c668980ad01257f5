import Crosstab.Text.AsciiCase

/-!
# Reserved words

The words that a bare name had better not be: the keywords of SQLite, and the words that
PostgreSQL reserves beyond them. Case does not matter.
-/

namespace Crosstab.Sql

/-- The reserved words, in upper case. -/
def reservedWords : List String :=
  ["ABORT", "ACTION", "ADD", "AFTER", "ALL", "ALTER", "ALWAYS", "ANALYSE", "ANALYZE", "AND",
    "ANY", "ARRAY", "AS", "ASC", "ASYMMETRIC", "ATTACH", "AUTOINCREMENT", "BEFORE", "BEGIN",
    "BETWEEN", "BOTH", "BY", "CASCADE", "CASE", "CAST", "CHECK", "COLLATE", "COLUMN", "COMMIT",
    "CONFLICT", "CONSTRAINT", "CREATE", "CROSS", "CURRENT", "CURRENT_CATALOG", "CURRENT_DATE",
    "CURRENT_ROLE", "CURRENT_TIME", "CURRENT_TIMESTAMP", "CURRENT_USER", "DATABASE", "DEFAULT",
    "DEFERRABLE", "DEFERRED", "DELETE", "DESC", "DETACH", "DISTINCT", "DO", "DROP", "EACH",
    "ELSE", "END", "ESCAPE", "EXCEPT", "EXCLUDE", "EXCLUSIVE", "EXISTS", "EXPLAIN", "FAIL",
    "FALSE", "FETCH", "FILTER", "FIRST", "FOLLOWING", "FOR", "FOREIGN", "FROM", "FULL",
    "GENERATED", "GLOB", "GRANT", "GROUP", "GROUPS", "HAVING", "IF", "IGNORE", "IMMEDIATE", "IN",
    "INDEX", "INDEXED", "INITIALLY", "INNER", "INSERT", "INSTEAD", "INTERSECT", "INTO", "IS",
    "ISNULL", "JOIN", "KEY", "LAST", "LATERAL", "LEADING", "LEFT", "LIKE", "LIMIT", "LOCALTIME",
    "LOCALTIMESTAMP", "MATCH", "MATERIALIZED", "NATURAL", "NO", "NOT", "NOTHING", "NOTNULL",
    "NULL", "NULLS", "OF", "OFFSET", "ON", "ONLY", "OR", "ORDER", "OTHERS", "OUTER", "OVER",
    "PARTITION", "PLACING", "PLAN", "PRAGMA", "PRECEDING", "PRIMARY", "QUERY", "RAISE", "RANGE",
    "RECURSIVE", "REFERENCES", "REGEXP", "REINDEX", "RELEASE", "RENAME", "REPLACE", "RESTRICT",
    "RETURNING", "RIGHT", "ROLLBACK", "ROW", "ROWS", "SAVEPOINT", "SELECT", "SESSION_USER",
    "SET", "SOME", "SYMMETRIC", "TABLE", "TEMP", "TEMPORARY", "THEN", "TIES", "TO", "TRAILING",
    "TRANSACTION", "TRIGGER", "TRUE", "UNBOUNDED", "UNION", "UNIQUE", "UPDATE", "USER", "USING",
    "VACUUM", "VALUES", "VARIADIC", "VIEW", "VIRTUAL", "WHEN", "WHERE", "WINDOW", "WITH",
    "WITHOUT"]

/-- A name is a reserved word, in any case. -/
def isReserved (name : String) : Bool := reservedWords.any fun word => Text.sameButCase word name

end Crosstab.Sql

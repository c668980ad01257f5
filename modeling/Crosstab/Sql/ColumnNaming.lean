import Crosstab.Sql.Quote
import Crosstab.Sql.Reserved
import Crosstab.Sql.StatementError

/-!
# Column naming

Every pivot value becomes a column of the result, and a policy says how the column is called:
exactly like the value and in quotes, by a cleaned-up bare name, or by the value as a bare name.

    label ──columnName──▶ name of the column ──render──▶ the name as written in the statement
-/

namespace Crosstab.Sql

/-- How pivot values name columns. -/
inductive ColumnNaming where
  /-- Named exactly like the value and quoted. -/
  | quoted
  /-- Made into a bare identifier that is no reserved word. -/
  | sanitized
  /-- The value itself, which has to be a bare identifier. -/
  | raw
deriving DecidableEq, Repr

/-- A letter A to Z in either case, a digit or an underscore. -/
def isIdentifierChar (c : Char) : Bool := c.isAlphanum || c == '_'

/-- A letter A to Z in either case or an underscore. -/
def isIdentifierStart (c : Char) : Bool := c.isAlpha || c == '_'

/-- A bare identifier. -/
def isIdentifier : List Char → Bool
  | [] => false
  | c :: cs => isIdentifierStart c && cs.all isIdentifierChar

/-- Makes a bare identifier of any text: an underscore for each character that cannot stand in
one, one before a leading digit and one behind a reserved word. -/
def sanitize (text : String) : String :=
  match text.toList.map fun c => if isIdentifierChar c then c else '_' with
  | [] => "_"
  | c :: cs =>
    let cleaned := String.ofList (c :: cs)
    if c.isDigit then "_" ++ cleaned
    else if isReserved cleaned then cleaned ++ "_"
    else cleaned

namespace ColumnNaming

/-- The name of the column for a label. -/
def columnName (naming : ColumnNaming) (label : String) : Except StatementError String :=
  match naming with
  | .quoted => if label.isEmpty then .error (.emptyColumnName label) else .ok label
  | .sanitized => .ok (sanitize label)
  | .raw => if isIdentifier label.toList then .ok label else .error (.invalidIdentifier label)

/-- A column name as the statement writes it. -/
def render : ColumnNaming → String → String
  | .quoted, name => quoteName name
  | _, name => name

end ColumnNaming

end Crosstab.Sql

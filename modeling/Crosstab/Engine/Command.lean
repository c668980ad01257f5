import Crosstab.Engine.Cell
import Crosstab.Sql.Token

/-!
# Commands of the engine

The statements that the engine understands, as data: dropping a table, the two queries of a run,
and the creation of a pivot table. A name keeps its lexeme, because an error about it shows it as
it is written and says where it stands.
-/

namespace Crosstab.Engine

open Sql (Lexeme)

/-! ### Places in a text -/

/-- A character of a text that is read; a NUL ends the reading. -/
def isRead (c : Char) : Bool := c != '\x00'

/-- The part of a text that is read. -/
def readPart (sql : String) : List Char := sql.toList.takeWhile isRead

/-- The part of a text that is not read. -/
def unreadPart (sql : String) : List Char := sql.toList.dropWhile isRead

/-- Where a lexeme starts in its text, in bytes of UTF-8. -/
def offsetIn (sql : String) (lexeme : Lexeme) : Nat :=
  (String.ofList (readPart sql)).utf8ByteSize - (String.ofList lexeme.start).utf8ByteSize

/-! ### Names and operands -/

/-- A name in a statement. -/
structure Name where
  /-- The name itself, without quotes. -/
  text : String
  lexeme : Lexeme

/-- The name of a table, perhaps with the name of its database in front. -/
structure TableName where
  qualifier : Option Name
  table : Name

/-- The database that a table name asks for. -/
def TableName.qualifierText (name : TableName) : Option String := name.qualifier.map Name.text

/-- A table name as errors show it. -/
def TableName.shown (name : TableName) : String :=
  match name.qualifier with
  | some qualifier => qualifier.text ++ "." ++ name.table.text
  | none => name.table.text

/-- An operand of an expression. -/
inductive Operand where
  /-- A literal. -/
  | literal (cell : Cell)
  /-- A name in quotes: a column, or else the text that it spells. -/
  | quoted (name : Name)
  /-- A bare name, which has to be a column. -/
  | bare (name : Name)
  /-- A bare name behind a minus. -/
  | negated (name : Name)

/-- The name that an operand consists of. -/
def Operand.name? : Operand → Option Name
  | .quoted name => some name
  | .bare name => some name
  | _ => none

/-! ### Statements -/

/-- A column of a pivot table: `MAX(CASE WHEN left = right THEN value END) AS title`. -/
structure Pick where
  left : Operand
  right : Operand
  value : Operand
  title : Name

/-- The query of a pivot table: a key, picked columns, a source, and what its rows are grouped
by. -/
structure PivotQuery where
  key : Operand
  picks : List Pick
  source : TableName
  group : Operand

/-- A statement. -/
inductive Command where
  /-- `DROP TABLE IF EXISTS table` -/
  | drop (table : TableName)
  /-- `SELECT DISTINCT column FROM source` -/
  | distinct (column : Operand) (source : TableName)
  /-- `SELECT * FROM source` -/
  | wholeTable (source : TableName)
  /-- `CREATE TEMP TABLE target AS query` -/
  | createPivot (target : TableName) (query : PivotQuery)

end Crosstab.Engine

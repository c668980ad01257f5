/-!
# Engine errors

Why the SQL engine refuses a statement. Errors about the text of a statement say where in it they
arose, in bytes from its start; the others speak about tables or about the call.
-/

namespace Crosstab

namespace Engine

/-- What is wrong at one place of a statement. -/
inductive InputFault where
  /-- This cannot stand here. -/
  | unexpected (written : String)
  /-- This is no token of SQL. -/
  | unrecognized (written : String)
  /-- There is no database of this name. -/
  | unknownDatabase (written : String)
  /-- There is a table of this name. -/
  | tableExists (written : String)
  /-- No column has this bare name. -/
  | noSuchColumn (name : String)
deriving DecidableEq, Repr

/-- What is shown of a fault, before its place is added. -/
def InputFault.message : InputFault → String
  | .unexpected written => s!"near \"{written}\": syntax error"
  | .unrecognized written => s!"unrecognized token: \"{written}\""
  | .unknownDatabase written => s!"unknown database {written}"
  | .tableExists written => s!"table {written} already exists"
  | .noSuchColumn name => s!"no such column: {name}"

end Engine

/-- Why the engine refuses. -/
inductive EngineError where
  /-- A fault in the text of a statement, at an offset in bytes. -/
  | input (fault : Engine.InputFault) (sql : String) (offset : Nat)
  /-- The statement breaks off. -/
  | incomplete
  /-- No table has this name. -/
  | noSuchTable (name : String)
  /-- A temporary table is created in another database than `temp`. -/
  | temporaryTableQualified
  /-- A module makes no table of the arguments that it gets. -/
  | invalidArguments (name : String)
  /-- The rows of a built-in table cannot be read. -/
  | failed
  /-- What a statement reads makes the statement itself outdated. -/
  | outdated
  /-- A table is created under a name that the engine keeps for itself. -/
  | reservedName (name : String)
  /-- The table is none that was created. -/
  | mayNotBeDropped (table : String)
  /-- A query has more columns than a result can have. -/
  | tooManyColumns
  /-- The rows are to be grouped by a column that is a maximum over them. -/
  | aggregateGroup
  /-- The file cannot be opened, or cannot be created. -/
  | cannotOpen (path : String)
  /-- The file cannot be read. -/
  | unreadable
  /-- Others use the file. -/
  | locked
  /-- The file holds something else than a database. -/
  | notADatabase
  /-- A database that may only be read is to be changed. -/
  | readOnlyDatabase
  /-- An address of a database names another machine. -/
  | unknownAuthority (name : String)
  /-- An address of a database asks for a mode that there is not; `kind` says of what. -/
  | unknownMode (kind name : String)
  /-- An address of a database asks for more than an earlier mode in it allows. -/
  | modeNotAllowed (name : String)
  /-- An address of a database asks for a way to reach files that there is not. -/
  | unknownFileSystem (name : String)
  /-- There is text behind the first statement. -/
  | multipleStatements
  /-- A query was executed as if it had no rows to give. -/
  | returnsRows
  /-- A query that has to give a row gave none. -/
  | noRows
deriving DecidableEq, Repr

/-- What is shown of an error. -/
def EngineError.message : EngineError → String
  | .input fault sql offset => fault.message ++ s!" in {sql} at offset {offset}"
  | .incomplete => "incomplete input"
  | .noSuchTable name => s!"no such table: {name}"
  | .invalidArguments name => s!"invalid arguments to {name} constructor"
  | .failed => "SQL logic error"
  | .outdated => "abort due to ROLLBACK"
  | .temporaryTableQualified => "temporary table name must be unqualified"
  | .reservedName name => s!"object name reserved for internal use: {name}"
  | .mayNotBeDropped table => s!"table {table} may not be dropped"
  | .tooManyColumns => "too many columns in result set"
  | .aggregateGroup => "aggregate functions are not allowed in the GROUP BY clause"
  | .cannotOpen path => s!"unable to open database file: {path}"
  | .unreadable => "disk I/O error"
  | .locked => "database is locked"
  | .notADatabase => "file is not a database"
  | .readOnlyDatabase => "attempt to write a readonly database"
  | .unknownAuthority name => s!"invalid uri authority: {name}"
  | .unknownMode kind name => s!"no such {kind} mode: {name}"
  | .modeNotAllowed name => s!"access mode not allowed: {name}"
  | .unknownFileSystem name => s!"no such vfs: {name}"
  | .multipleStatements => "Multiple statements provided"
  | .returnsRows => "Execute returned results - did you mean to call query?"
  | .noRows => "Query returned no rows"

end Crosstab

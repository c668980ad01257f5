import Crosstab.Sql.ColumnNaming
import Crosstab.Sql.Dialect
import Crosstab.Text.Blank
import Crosstab.Text.LowerCase

/-!
# Options

How a run is to be done: the dialect, the naming of columns, and whether the statement is only
built. Dialect and naming can be given by name, in any case and with blanks around; the names
come from the environment or from the command line.
-/

namespace Crosstab

open Sql (Dialect ColumnNaming)

/-- An option has no such value. -/
inductive ConfigError where
  | unknownDialect (name : String)
  | unknownNaming (name : String)
deriving DecidableEq, Repr

/-- What is shown of an error. -/
def ConfigError.message : ConfigError → String
  | .unknownDialect name => s!"Unknown SQL dialect: {name} (expected sqlite or postgres)"
  | .unknownNaming name =>
    s!"Unknown column naming policy: {name} (expected quoted, sanitized or raw)"

/-- An option's name as it is compared: without outer blanks, in lower case. -/
def optionName (text : String) : String := Text.lowerCase (Text.trim text)

/-- The names of the dialects. -/
def dialectNames : List (String × Dialect) :=
  [("sqlite", .sqlite), ("postgres", .postgres), ("postgresql", .postgres), ("pg", .postgres)]

/-- The names of the naming policies. -/
def namingNames : List (String × ColumnNaming) :=
  [("quoted", .quoted), ("sanitized", .sanitized), ("sanitize", .sanitized), ("raw", .raw)]

/-- The dialect of a name. -/
def parseDialect (text : String) : Except ConfigError Dialect :=
  match dialectNames.lookup (optionName text) with
  | some dialect => .ok dialect
  | none => .error (.unknownDialect (optionName text))

/-- The naming policy of a name. -/
def parseNaming (text : String) : Except ConfigError ColumnNaming :=
  match namingNames.lookup (optionName text) with
  | some naming => .ok naming
  | none => .error (.unknownNaming (optionName text))

/-- How a run is to be done. -/
structure Options where
  /-- The engine that the statement is written for. -/
  dialect : Dialect
  /-- How pivot values name columns. -/
  naming : ColumnNaming
  /-- Stop once the statement is built: nothing is dropped and nothing created. -/
  dryRun : Bool
deriving DecidableEq, Repr

namespace Options

/-- What holds where nothing is said. -/
def default : Options := ⟨.sqlite, .quoted, false⟩

/-- The variable that names the dialect. -/
def dialectVariable : String := "PIVOTGEN_DIALECT"

/-- The variable that names the naming policy. -/
def namingVariable : String := "PIVOTGEN_COLUMN_NAMING"

/-- The variable that holds the path of the database. -/
def databaseVariable : String := "PIVOTGEN_DATABASE"

/-- The options that variables set; the dialect is looked at first. -/
def ofVariables (lookup : String → Option String) : Except ConfigError Options := do
  let dialect ← match lookup dialectVariable with
    | some name => parseDialect name
    | none => .ok default.dialect
  let naming ← match lookup namingVariable with
    | some name => parseNaming name
    | none => .ok default.naming
  return { default with dialect, naming }

end Options

end Crosstab

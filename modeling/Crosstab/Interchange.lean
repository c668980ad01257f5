import Crosstab.Json.Decode
import Crosstab.Json.Printer
import Crosstab.Log.Entry
import Crosstab.Run

/-!
# Models in JSON

How specs, options, log entries, value sets, statements and reports are written as JSON, and how
the first three are read. A model that can be read back is read from any JSON text that says the
same: members in another order, unknown members among them, or an array of the fields in order.

    model ──toJson──▶ JSON value ──compact, pretty──▶ text ──Tree.parse?──▶ tree ──ofTree?──▶ model
-/

namespace Crosstab

open Json (Tree)

/-! ### Named alternatives -/

namespace Sql

/-- The dialects by their names in JSON. -/
def Dialect.alternatives : List (String × Dialect) :=
  [("sqlite", .sqlite), ("postgres", .postgres)]

/-- The name of a dialect in JSON. -/
def Dialect.name : Dialect → String
  | .sqlite => "sqlite"
  | .postgres => "postgres"

/-- Reads a dialect. -/
def Dialect.ofTree? : Tree → Option Dialect := Tree.oneOf? Dialect.alternatives

/-- The naming policies by their names in JSON. -/
def ColumnNaming.alternatives : List (String × ColumnNaming) :=
  [("quoted", .quoted), ("sanitized", .sanitized), ("raw", .raw)]

/-- The name of a naming policy in JSON. -/
def ColumnNaming.name : ColumnNaming → String
  | .quoted => "quoted"
  | .sanitized => "sanitized"
  | .raw => "raw"

/-- Reads a naming policy. -/
def ColumnNaming.ofTree? : Tree → Option ColumnNaming := Tree.oneOf? ColumnNaming.alternatives

end Sql

/-- The levels by their names in JSON. -/
def Log.Level.alternatives : List (String × Log.Level) :=
  [("info", .info), ("success", .success), ("warning", .warning), ("error", .error)]

/-- The name of a level in JSON. -/
def Log.Level.name : Log.Level → String
  | .info => "info"
  | .success => "success"
  | .warning => "warning"
  | .error => "error"

/-- Reads a level. -/
def Log.Level.ofTree? : Tree → Option Log.Level := Tree.oneOf? Log.Level.alternatives

/-! ### Specs -/

namespace Spec

/-- The names of the fields, in order. -/
def fieldNames : List String :=
  ["targetTable", "sourceTable", "rowKeyColumn", "pivotColumn", "valueColumn"]

/-- The JSON value of a spec. -/
def toJson (spec : Spec) : Json :=
  .object
    [("targetTable", .string spec.target), ("sourceTable", .string spec.source),
      ("rowKeyColumn", .string spec.rowKey), ("pivotColumn", .string spec.pivot),
      ("valueColumn", .string spec.value)]

/-- Reads a spec; every field is needed. -/
def ofTree? (tree : Tree) : Option Spec := do
  let field ← tree.fields? fieldNames
  let target ← (← field "targetTable").text?
  let source ← (← field "sourceTable").text?
  let rowKey ← (← field "rowKeyColumn").text?
  let pivot ← (← field "pivotColumn").text?
  let value ← (← field "valueColumn").text?
  return { target, source, rowKey, pivot, value }

end Spec

/-! ### Options -/

namespace Options

/-- The names of the fields, in order. -/
def fieldNames : List String := ["dialect", "columnNaming", "dryRun"]

/-- The JSON value of options. -/
def toJson (options : Options) : Json :=
  .object
    [("dialect", .string options.dialect.name), ("columnNaming", .string options.naming.name),
      ("dryRun", .bool options.dryRun)]

/-- Reads options; a field that is left out has its default. -/
def ofTree? (tree : Tree) : Option Options := do
  let field ← tree.fields? fieldNames
  let dialect ← Tree.orElse? (field "dialect") default.dialect Sql.Dialect.ofTree?
  let naming ← Tree.orElse? (field "columnNaming") default.naming Sql.ColumnNaming.ofTree?
  let dryRun ← Tree.orElse? (field "dryRun") default.dryRun Tree.flag?
  return { dialect, naming, dryRun }

end Options

/-! ### Log entries -/

namespace Log.Entry

/-- The names of the fields, in order. -/
def fieldNames : List String := ["level", "message", "indent"]

/-- The JSON value of an entry. -/
def toJson (entry : Entry) : Json :=
  .object
    [("level", .string entry.level.name), ("message", .string entry.message),
      ("indent", .ofInt entry.indent.toNat)]

/-- Reads an entry; without an indentation it has none. -/
def ofTree? (tree : Tree) : Option Entry := do
  let field ← tree.fields? fieldNames
  let level ← Level.ofTree? (← field "level")
  let message ← (← field "message").text?
  let indent ← Tree.orElse? (field "indent") 0 Tree.byte?
  return { level, message, indent }

end Log.Entry

/-! ### What runs produce -/

/-- The JSON value of a pivot value; a real that is no number becomes `null`. -/
def Value.toJson : Value → Json
  | .integer n => .ofInt n.toInt
  | .real x => .ofReal x
  | .text s => .string s

/-- The JSON value of a set. -/
def ValueSet.toJson (set : ValueSet) : Json :=
  .object
    [("values", .array (set.values.map Value.toJson)), ("skippedNulls", .ofInt set.skippedNulls)]

/-- The JSON value of a statement. -/
def Sql.Statement.toJson (statement : Statement) : Json :=
  .object
    [("fragments", .array (statement.fragments.map Json.string)),
      ("columns", .array (statement.columns.map Json.string))]

/-- The JSON value of a report. -/
def Report.toJson (report : Report) : Json :=
  .object
    [("spec", report.spec.toJson), ("values", report.values.toJson), ("sql", .string report.sql),
      ("columns", .array (report.columns.map Json.string)), ("executed", .bool report.executed)]

end Crosstab

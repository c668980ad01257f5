import Crosstab.Engine.Catalog
import Crosstab.Json.Decode
import Crosstab.Json.Printer
import Crosstab.Text.Hexadecimal

/-!
# Archives

The tables of `main` as text that outlives a connection: one JSON object a line, each a step that
creates a table or adds rows to one. Reading an archive performs its steps on an empty catalog.

    lines ──Step.ofTree?──▶ steps ──perform──▶ catalog          catalog ──archive──▶ lines

JSON numbers would not keep cells apart, so a number is an object that names its kind: `int` with
decimal digits, `real` with the sixteen digits of its bits, `blob` and `rawtext` with the digits
of their bytes. Text in UTF-8 is a JSON string.
-/

namespace Crosstab.Engine

open Json (Tree)

/-! ### Cells -/

/-- Reads the text of a number or of bytes, by the name of its kind. -/
def Cell.ofKind? (kind : String) (digits : List Char) : Option Cell :=
  if kind = "int" then do
    let n ← Decimal.Numeral.integer? digits
    if -2 ^ 63 ≤ n ∧ n < 2 ^ 63 then some (.integer (Int64.ofInt n)) else none
  else if kind = "real" then (Text.Hexadecimal.word? digits).map fun word => .ofReal ⟨word⟩
  else if kind = "blob" then (Text.Hexadecimal.bytes? digits).map fun bytes => .blob ⟨bytes.toArray⟩
  else if kind = "rawtext" then
    (Text.Hexadecimal.bytes? digits).map fun bytes => .text ⟨bytes.toArray⟩
  else none

/-- Reads a cell. -/
def Cell.ofTree? : Tree → Option Cell
  | .null => some .null
  | .string (some s) => some (.ofText s)
  | .object [(some kind, .string (some digits))] => Cell.ofKind? kind digits.toList
  | _ => none

/-- The JSON value of a number or of bytes. -/
def Cell.ofDigits (kind : String) (digits : List Char) : Json :=
  .object [(kind, .string (String.ofList digits))]

/-- The JSON value of a cell. -/
def Cell.archived : Cell → Json
  | .null => .null
  | .integer n => Cell.ofDigits "int" (toString n.toInt).toList
  | .real x => Cell.ofDigits "real" (Text.Hexadecimal.ofWord x.bits)
  | .text bytes =>
    match String.fromUTF8? bytes with
    | some s => .string s
    | none => Cell.ofDigits "rawtext" (Text.Hexadecimal.ofBytes bytes.data.toList)
  | .blob bytes => Cell.ofDigits "blob" (Text.Hexadecimal.ofBytes bytes.data.toList)

/-! ### Columns -/

/-- The declared types of columns. -/
def Affinity.typeNames : List (String × Affinity) :=
  [("INTEGER", .integer), ("TEXT", .text), ("REAL", .real), ("NUMERIC", .numeric)]

/-- Reads a column: its name, or its name and its type. -/
def Column.ofTree? : Tree → Option Column
  | .string (some name) => some ⟨name, .none⟩
  | .array [.string (some name), .string (some type)] => do
    return ⟨name, ← Affinity.typeNames.lookup type⟩
  | _ => none

/-- The JSON value of a column. -/
def Column.archived (column : Column) : Json :=
  match column.affinity with
  | .none => .string column.name
  | .integer => .array [.string column.name, .string "INTEGER"]
  | .text => .array [.string column.name, .string "TEXT"]
  | .real => .array [.string column.name, .string "REAL"]
  | .numeric => .array [.string column.name, .string "NUMERIC"]

/-! ### Steps -/

/-- A step that builds tables. -/
inductive Step where
  /-- Creates a table in `main`. -/
  | create (name : String) (columns : List Column)
  /-- Adds rows to a table. -/
  | insert (name : String) (rows : List (List Cell))

/-- Reads rows. -/
def rowsOfTree? : Tree → Option (List (List Cell))
  | .array rows => rows.mapM fun row =>
    match row with
    | .array cells => cells.mapM Cell.ofTree?
    | _ => none
  | _ => none

/-- Reads columns. -/
def columnsOfTree? : Tree → Option (List Column)
  | .array columns => columns.mapM Column.ofTree?
  | _ => none

/-- Reads a step. -/
def Step.ofTree? (tree : Tree) : Option Step := do
  let field ← tree.fields? ["create", "columns", "insert", "rows"]
  match field "create" with
  | some name => return .create (← name.text?) (← columnsOfTree? (← field "columns"))
  | none => return .insert (← (← field "insert").text?) (← rowsOfTree? (← field "rows"))

/-- The JSON value of a step. -/
def Step.archived : Step → Json
  | .create name columns =>
    .object [("create", .string name), ("columns", .array (columns.map Column.archived))]
  | .insert name rows =>
    .object
      [("insert", .string name),
        ("rows", .array (rows.map fun row => .array (row.map Cell.archived)))]

namespace Catalog

/-- The catalog after a step. -/
def perform (catalog : Catalog) : Step → Catalog
  | .create name columns => catalog.add .main ⟨name, columns, []⟩
  | .insert name rows => catalog.insertRows none name rows

/-- The steps that build the tables of `main`. -/
def steps (catalog : Catalog) : List Step :=
  (catalog.tables .main).flatMap fun table =>
    [.create table.name table.columns, .insert table.name table.rows]

/-- Reads the lines of an archive. -/
def ofArchive? (lines : List String) : Option Catalog := do
  let steps ← lines.mapM fun line => do Step.ofTree? (← Tree.parse? line)
  return steps.foldl perform empty

/-- The lines of an archive. -/
def archive (catalog : Catalog) : List String :=
  catalog.steps.map fun step => step.archived.compact

end Catalog

end Crosstab.Engine

import Crosstab.Engine.Negation
import Crosstab.Engine.Reader
import Crosstab.Engine.Resolution

/-!
# Execution

What the statements do to a catalog. A statement is checked as a whole before anything happens:
tables have to exist, targets must not, and bare names have to be columns. What passes the check
fails at most because the database may not be written.

    command ──check──▶ plan ──perform──▶ catalog and rows

A quoted name that is no column of its table is the text that it spells.
-/

namespace Crosstab.Engine

open Store (QueryResult)

/-! ### Names -/

/-- An operand with its name resolved. -/
inductive Source where
  /-- The column at a position. -/
  | column (index : Nat)
  /-- The number of the row. -/
  | rowNumber
  | constant (cell : Cell)
  | negated (source : Source)
deriving DecidableEq

/-- What a name stands for in a relation: a column, or the number of the row, which goes by three
names unless columns have them. -/
def Source.named? (relation : Relation) (name : String) : Option Source :=
  match relation.column? name with
  | some index => some (.column index)
  | none =>
    if ["rowid", "oid", "_rowid_"].any fun word => Text.sameButCase word name then some .rowNumber
    else none

/-- What a bare name stands for. -/
def Source.ofBareName (sql : String) (relation : Relation) (name : Name) :
    Except EngineError Source :=
  match Source.named? relation name.text with
  | some source => .ok source
  | none => .error (.input (.noSuchColumn name.text) sql (offsetIn sql name.lexeme))

/-- What an operand stands for over the rows of a relation. -/
def Source.ofOperand (sql : String) (relation : Relation) : Operand → Except EngineError Source
  | .literal cell => .ok (.constant cell)
  | .quoted name => .ok ((Source.named? relation name.text).getD (.constant (.ofText name.text)))
  | .bare name => Source.ofBareName sql relation name
  | .negated name => (Source.ofBareName sql relation name).map .negated

/-- The cell of an operand in a row. -/
def Source.cell (source : Source) (row : Row) : Cell :=
  match source with
  | .column index => row.cells[index]?.getD .null
  | .rowNumber => .integer (Int64.ofNat row.number)
  | .constant cell => cell
  | .negated source => (source.cell row).negated

/-- The affinity that an operand brings to a comparison, if it is a column. -/
def Source.affinity? (relation : Relation) : Source → Option Affinity
  | .column index => some (relation.affinity index)
  | .rowNumber => some .integer
  | _ => none

/-- An operand as it is written, if it is a name. -/
def Operand.shown (operand : Operand) : String :=
  match operand.name? with
  | some name => name.lexeme.written
  | none => ""

/-- The column that a result has for an operand: a column as it is declared, and anything else by
the text of its expression. -/
def resultColumn (relation : Relation) (operand : Operand) : Source → Column
  | .column index => relation.allColumns[index]?.getD ⟨operand.shown, .none⟩
  | .rowNumber => ⟨"rowid", .integer⟩
  | _ => ⟨operand.shown, .none⟩

/-! ### Distinct rows, groups and maxima -/

/-- The first of the cells that are the same, in order. -/
def distinctCells : List Cell → List Cell
  | [] => []
  | cell :: cells => cell :: (distinctCells cells).filter fun other => !cell.same other

/-- The first greatest cell that is not NULL; NULL if there is none. -/
def greatest (cells : List Cell) : Cell :=
  cells.foldl (fun best cell =>
    if cell = .null then best
    else if best = .null then cell
    else if best.compare cell == .lt then cell
    else best) .null

/-- A picked column with its names resolved. -/
structure PickPlan where
  left : Source
  right : Source
  /-- The affinity with which the sides are compared. -/
  affinity : Affinity
  value : Source
  name : String
deriving DecidableEq

/-- The cell that a row gives to a picked column. -/
def PickPlan.cell (pick : PickPlan) (row : Row) : Cell :=
  if pick.affinity.equates (pick.left.cell row) (pick.right.cell row) then pick.value.cell row
  else .null

/-- The cell of a picked column for a group of rows. -/
def PickPlan.maximum (pick : PickPlan) (rows : List Row) : Cell :=
  greatest (rows.map pick.cell)

/-- The row that speaks for a group where a column is neither grouped nor aggregated: the one with
the maximum of the last picked column, the last one if that has none, and the first one if nothing
is picked. -/
def speaker? (picks : List PickPlan) (rows : List Row) : Option Row :=
  match picks.getLast? with
  | none => rows.head?
  | some pick =>
    let best := pick.maximum rows
    if best = .null then rows.getLast? else rows.find? fun row => pick.cell row = best

/-- The rows of a pivot table: one per distinct key, in ascending order of keys. -/
def pivotRows (key group : Source) (picks : List PickPlan) (rows : List Row) : List (List Cell) :=
  let keys := (distinctCells (rows.map group.cell)).mergeSort Cell.notAfter
  keys.map fun k =>
    let members := rows.filter fun row => k.same (group.cell row)
    ((speaker? picks members).map key.cell).getD .null :: picks.map fun pick => pick.maximum members

/-! ### Column names -/

/-- A name without the number that a colon separates at its end. -/
def withoutNumber (name : List Char) : List Char :=
  match name.reverse.dropWhile Char.isDigit with
  | ':' :: rest => rest.reverse
  | _ => name

/-- A name that is not taken: the name itself, or its stem with the first free number from
`number` on. -/
def freeName (taken : List String) : Nat → Nat → String → String
  | 0, _, name => name
  | bound + 1, number, name =>
    if taken.any fun other => Text.sameButCase other name then
      freeName taken bound (number + 1)
        (String.ofList (withoutNumber name.toList) ++ ":" ++ toString number)
    else name

/-- The name of a column before it is compared with others: the words for truth are no names, and
a column that would have one is called by its position. -/
def soundName (position : Nat) (name : String) : String :=
  if ["true", "false"].any fun word => Text.sameButCase word name then s!"column{position}"
  else name

/-- Columns with names that differ, as tables need them; the first has the given position. -/
def distinctNames (taken : List String) (position : Nat) : List Column → List Column
  | [] => []
  | column :: columns =>
    let name := freeName taken (taken.length + 1) 1 (soundName position column.name)
    { column with name } :: distinctNames (name :: taken) (position + 1) columns

/-! ### Plans -/

/-- A checked statement. -/
inductive Plan where
  /-- Nothing is to be done. -/
  | idle
  /-- The table of a name is dropped from a database. -/
  | drop (schema : Schema) (table : String)
  /-- A query with its answer. -/
  | answer (columns : List String) (rows : List (List Cell))
  /-- The creation of a temporary table. -/
  | create (table : Table)
  /-- What fails only while it is performed. -/
  | failing (cause : EngineError)

/-- The file of `main` has to be usable. -/
def checkFile (catalog : Catalog) : Except EngineError Unit :=
  match catalog.state with
  | .unusable cause => .error cause
  | _ => .ok ()

/-- The database of a target has to be `temp`, its name must not be a reserved one, and the target
has to be new. -/
def checkTarget (catalog : Catalog) (sql : String) (target : TableName) :
    Except EngineError Unit := do
  match target.qualifier with
  | some qualifier =>
    match Schema.ofName? qualifier.text with
    | some .temp => pure ()
    | some .main => throw .temporaryTableQualified
    | none =>
      throw (.input (.unknownDatabase qualifier.lexeme.written) sql
        (offsetIn sql qualifier.lexeme))
  | none => pure ()
  if isReservedName target.table.text then throw (.reservedName target.table.text)
  checkFile catalog
  if (catalog.tableIn? .temp target.table.text).isSome then
    throw (.input (.tableExists target.table.lexeme.written) sql
      (offsetIn sql target.table.lexeme))

/-- What dropping a table of a name comes to. -/
def planDrop (catalog : Catalog) (name : TableName) : Except EngineError Plan :=
  match catalog.find? name.qualifierText name.table.text with
  | none => .ok .idle
  | some (.stored schema table) => .ok (.drop schema table.name)
  | some (.schemaTable schema) => .error (.mayNotBeDropped schema.tableName)
  | some (.builtin shown _) => .error (.mayNotBeDropped shown)

/-- Resolves the names of picked columns. -/
def planPicks (sql : String) (relation : Relation) : List Pick → Except EngineError (List PickPlan)
  | [] => .ok []
  | pick :: picks => do
    let left ← Source.ofOperand sql relation pick.left
    let right ← Source.ofOperand sql relation pick.right
    let value ← Source.ofOperand sql relation pick.value
    let affinity := Affinity.ofSides (left.affinity? relation) (right.affinity? relation)
    let plan : PickPlan := { left, right, affinity, value, name := pick.title.text }
    return plan :: (← planPicks sql relation picks)

/-- Resolves what the rows are grouped by: a name that is no column of the source but names a
picked column means that column, by which no rows can be grouped. -/
def groupSource (sql : String) (relation : Relation) (picks : List PickPlan) (group : Operand) :
    Except EngineError Source :=
  let isPicked (name : Name) : Bool :=
    (Source.named? relation name.text).isNone &&
      picks.any fun pick => Text.sameButCase pick.name name.text
  if group.name?.any isPicked then .error .aggregateGroup
  else Source.ofOperand sql relation group

/-- How many columns a result can have. -/
def columnLimit : Nat := 2000

/-- Checks the query of a pivot table and computes the table. -/
def pivotTable (sql : String) (name : String) (query : PivotQuery) (relation : Relation) :
    Except EngineError Table := do
  if columnLimit < query.picks.length + 1 then throw .tooManyColumns
  let key ← Source.ofOperand sql relation query.key
  let picks ← planPicks sql relation query.picks
  let group ← groupSource sql relation picks query.group
  let columns := resultColumn relation query.key key :: picks.map fun pick => ⟨pick.name, .none⟩
  return {
    name
    columns := distinctNames [] 1 columns
    rows := pivotRows key group picks relation.rows }

/-- The cells of a column, each once; those of a column in order come in that order. -/
def distinctColumn (relation : Relation) (source : Source) : List Cell :=
  let cells := distinctCells (relation.rows.map source.cell)
  match relation.ordered, source with
  | some ordered, .column index => if index = ordered then cells.mergeSort Cell.notAfter else cells
  | _, _ => cells

/-- The plan of a statement that reads a relation. -/
def Plan.reading (relation : Relation) (plan : Plan) : Plan :=
  match relation.fault with
  | some cause => .failing cause
  | none => plan

/-- Checks a statement. -/
def check (catalog : Catalog) (sql : String) (command : Command) : Except EngineError Plan := do
  checkFile catalog
  match command with
  | .drop name => planDrop catalog name
  | .wholeTable name =>
    let relation ← findSource catalog false name
    return Plan.reading relation (.answer (relation.columns.map Column.name) relation.shownRows)
  | .distinct operand name =>
    let relation ← findSource catalog false name
    let source ← Source.ofOperand sql relation operand
    return Plan.reading relation
      (.answer [(resultColumn relation operand source).name]
        ((distinctColumn relation source).map fun cell => [cell]))
  | .createPivot target query =>
    let relation ← findSource catalog true query.source
    return Plan.reading relation (.create (← pivotTable sql target.table.text query relation))

/-- Reads and checks the statement at the start of a text; gives the text behind it, too. The
target of a creation is checked before the rest of the statement is read. -/
def prepare (catalog : Catalog) (sql : String) : Except EngineError (Plan × List Char) := do
  if let some target := Command.target? sql then checkTarget catalog sql target
  let (command, behind) ← Command.read sql
  return (← check catalog sql command, behind)

/-! ### What a connection notes -/

/-- The name of the table that a statement drops or reads. -/
def Command.table : Command → TableName
  | .drop name => name
  | .wholeTable name => name
  | .distinct _ name => name
  | .createPivot _ query => query.source

/-- Meets the module behind the table of a name, if it is a built-in one. -/
def Catalog.meetTable (catalog : Catalog) (name : TableName) : Catalog :=
  match catalog.find? name.qualifierText name.table.text with
  | some (.builtin _ _) => catalog.meet name.table.text
  | _ => catalog

/-- Reading a table needs `temp`: its own schema table, or a check of all databases. -/
def needsTemp (catalog : Catalog) (name : TableName) : Bool :=
  match catalog.find? name.qualifierText name.table.text with
  | some (.schemaTable .temp) => true
  | some (.builtin _ table) => table.isCheck
  | _ => false

/-- What a connection knows once it has looked up the table of a statement. -/
def Catalog.notingTable (catalog : Catalog) (command : Command) : Catalog :=
  let catalog := catalog.meetTable command.table
  match command with
  | .drop _ => catalog
  | _ => if needsTemp catalog command.table then catalog.openTemp else catalog

/-- What a connection knows once it has read a statement, whatever comes of that: the modules of
the tables that it has looked up, and whether it has needed `temp`. -/
def Catalog.noting (catalog : Catalog) (sql : String) : Catalog :=
  let command := (Command.read sql).toOption.map Prod.fst
  match Command.target? sql with
  | none => command.elim catalog catalog.notingTable
  | some target =>
    match checkTarget catalog sql target with
    | .ok _ => command.elim catalog.openTemp catalog.openTemp.notingTable
    | .error _ => catalog

/-! ### The store -/

/-- The rows of an answer as JSON cells; the first cell in row order that has no value fails. -/
def jsonRows (columns : List String) : List (List Cell) → Except StoreError (List (List Json))
  | [] => .ok []
  | row :: rows => do
    let cells ← (columns.zip row).mapM fun entry => entry.2.toJson entry.1
    return cells :: (← jsonRows columns rows)

/-- The catalog after a checked statement. -/
def Plan.perform (catalog : Catalog) : Plan → Except EngineError Catalog
  | .idle => .ok catalog
  | .drop schema table =>
    if schema = .main ∧ catalog.state = .readOnly then .error .readOnlyDatabase
    else .ok (catalog.drop schema table)
  | .answer _ _ => .error .returnsRows
  | .create table => .ok (catalog.add .temp table)
  | .failing cause => .error cause

/-- Executes the one statement of a text. -/
def execute (sql : String) (catalog : Catalog) : Except EngineError Catalog := do
  let (plan, behind) ← prepare catalog sql
  if !behind.isEmpty then throw .multipleStatements
  plan.perform catalog

/-- Answers the query at the start of a text. -/
def query (sql : String) (catalog : Catalog) : Except StoreError QueryResult := do
  let (plan, _) ← (prepare catalog sql).mapError StoreError.engine
  match plan with
  | .answer columns rows => return ⟨columns, ← jsonRows columns rows⟩
  | .failing cause => throw (.engine cause)
  | _ => return .empty

instance : Store Catalog where
  execute sql catalog :=
    let catalog := catalog.noting sql
    match execute sql catalog with
    | .ok after => (.ok (), after)
    | .error cause => (.error (.engine cause), catalog)
  query sql catalog :=
    let catalog := catalog.noting sql
    (query sql catalog, catalog)

end Crosstab.Engine

import Crosstab.Engine.Builtin
import Crosstab.Engine.Command

/-!
# What a table name stands for

A name of a table is looked up among the tables that were created, then among the schema tables,
and then among the built-in tables.

    name ──Catalog.find?──▶ what it stands for ──relation──▶ what a query reads

A built-in table is called by the name under which the connection has met it first.
-/

namespace Crosstab.Engine

/-- What a table name stands for. -/
inductive Found where
  /-- A table that was created. -/
  | stored (schema : Schema) (table : Table)
  /-- The schema table of a database. -/
  | schemaTable (schema : Schema)
  /-- A built-in table, and the name by which it is called. -/
  | builtin (shown : String) (table : Builtin)

/-- The table that was created under a name. -/
def Catalog.stored? (catalog : Catalog) (qualifier : Option String) (name : String) :
    Option Found := do
  let schema ← catalog.resolve? qualifier name
  return .stored schema (← catalog.tableIn? schema name)

/-- The built-in table of a name. -/
def Catalog.builtin? (catalog : Catalog) (name : String) : Option Found := do
  let builtin ← Builtin.find? name
  let met := catalog.modules.names.find? fun other => Text.sameButCase other name
  return .builtin (met.getD name) builtin

/-- What a name stands for. -/
def Catalog.find? (catalog : Catalog) (qualifier : Option String) (name : String) : Option Found :=
  catalog.stored? qualifier name <|> (schemaTable? qualifier name).map .schemaTable <|>
    catalog.builtin? name

/-- The relation that a query reads; `creating` tells whether a table of `temp` is created from
it. -/
def Found.relation (catalog : Catalog) (creating : Bool) : Found → Relation
  | .stored _ table => table.relation
  | .schemaTable schema =>
    if creating && schema == .temp then catalog.growingSchemaTable schema
    else catalog.schemaTable schema
  | .builtin _ table => table.relation catalog creating

/-- The modules that make built-in tables only of arguments, which a query cannot give. -/
def argumentModules : List String := ["fts4aux"]

/-- Why a name that stands for nothing cannot be read. -/
def missing (name : TableName) : EngineError :=
  match argumentModules.find? fun other => Text.sameButCase other name.table.text with
  | some other => .invalidArguments other
  | none => .noSuchTable name.shown

/-- The relation that a statement reads. -/
def findSource (catalog : Catalog) (creating : Bool) (name : TableName) :
    Except EngineError Relation :=
  match catalog.find? name.qualifierText name.table.text with
  | some found => .ok (found.relation catalog creating)
  | none => .error (missing name)

end Crosstab.Engine

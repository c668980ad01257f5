import Crosstab.Engine.Relation

/-!
# Schema tables

Each database has a schema table, in which it lists its tables: the name, the page where the table
starts, and the statement that would create it. It goes by several names, which no other table can
have.
-/

namespace Crosstab.Engine

/-- A name that the engine keeps for itself. -/
def isReservedName (name : String) : Bool :=
  (name.toList.map Char.toLower).take 7 = "sqlite_".toList

/-! ### Names -/

/-- The names of the schema tables behind the name of a database, or behind none. -/
def schemaTableNames : Option Schema → List (String × Schema)
  | some .main => [("sqlite_master", .main), ("sqlite_schema", .main)]
  | some .temp =>
    [("sqlite_temp_master", .temp), ("sqlite_temp_schema", .temp), ("sqlite_master", .temp),
      ("sqlite_schema", .temp)]
  | none =>
    [("sqlite_master", .main), ("sqlite_schema", .main), ("sqlite_temp_master", .temp),
      ("sqlite_temp_schema", .temp)]

/-- The database whose schema table a name means. -/
def schemaTable? (qualifier : Option String) (name : String) : Option Schema :=
  let lookUp (schema : Option Schema) : Option Schema :=
    ((schemaTableNames schema).find? fun entry => Text.sameButCase entry.1 name).map (·.2)
  match qualifier with
  | none => lookUp none
  | some qualifier => (Schema.ofName? qualifier).bind fun schema => lookUp (some schema)

/-- The name by which a schema table is called in lists. -/
def Schema.listedName : Schema → String
  | .main => "sqlite_schema"
  | .temp => "sqlite_temp_schema"

/-! ### The relation -/

/-- The columns of a schema table. -/
def schemaTableColumns : List Column :=
  [⟨"type", .text⟩, ⟨"name", .text⟩, ⟨"tbl_name", .text⟩, ⟨"rootpage", .integer⟩, ⟨"sql", .text⟩]

/-- The schema table of a database. -/
def Catalog.schemaTable (catalog : Catalog) (schema : Schema) : Relation :=
  { columns := schemaTableColumns
    rows := (catalog.database schema).entries.map fun entry => ⟨entry.number, entry.cells⟩ }

/-- The schema table of a database that a table is being added to: the new one has its row,
but nothing stands in it yet. -/
def Catalog.growingSchemaTable (catalog : Catalog) (schema : Schema) : Relation :=
  let relation := catalog.schemaTable schema
  let row : Row := ⟨(catalog.database schema).nextNumber, schemaTableColumns.map fun _ => .null⟩
  { relation with rows := relation.rows ++ [row] }

end Crosstab.Engine

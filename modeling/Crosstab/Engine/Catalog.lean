import Crosstab.Engine.Database
import Crosstab.Engine.Declaration
import Crosstab.Engine.Error

/-!
# Catalogs

A catalog is what a connection knows: the tables of two databases, `main`, whose tables last, and
`temp`, whose tables are gone with the connection. A bare table name is looked up in `temp` first
and then in `main`.

A connection also remembers which of the modules behind built-in tables it has met, because they
can be listed.
-/

namespace Crosstab.Engine

/-! ### Databases of a connection -/

/-- The databases of a connection. -/
inductive Schema where
  | main
  | temp
deriving DecidableEq, Repr

namespace Schema

/-- The name of a database. -/
def name : Schema → String
  | .main => "main"
  | .temp => "temp"

/-- The database of a name. -/
def ofName? (name : String) : Option Schema :=
  [Schema.main, .temp].find? fun schema => Text.sameButCase name schema.name

/-- The name under which a database lists its tables. -/
def tableName : Schema → String
  | .main => "sqlite_master"
  | .temp => "sqlite_temp_master"

/-- The statement that a database shows for a table. -/
def declaration (schema : Schema) (table : Table) : String :=
  match schema with
  | .main => table.declaration
  | .temp => table.impliedDeclaration

/-- The database without tables. -/
def empty (schema : Schema) : Database := .empty schema.tableName

end Schema

/-! ### What holds them -/

/-- What may be done with the file of `main`. -/
inductive FileState where
  | writable
  | readOnly
  /-- Nothing, for some reason. -/
  | unusable (cause : EngineError)
deriving DecidableEq, Repr

/-- Something may be done with the file. -/
def FileState.isUsable : FileState → Bool
  | .unusable _ => false
  | _ => true

/-- What `main` is kept in. -/
inductive Medium where
  | memory
  /-- A file without a name, which is gone with the connection. -/
  | scratch
  | file (path : String) (state : FileState)
deriving DecidableEq, Repr

namespace Medium

/-- What may be done with `main`. -/
def state : Medium → FileState
  | .file _ state => state
  | _ => .writable

/-- The path of the file; it is empty if there is none. -/
def path : Medium → String
  | .file path _ => path
  | _ => ""

end Medium

/-- The modules behind built-in tables that every connection knows, in the order in which it meets
them. -/
def commonModules : List String :=
  ["fts4aux", "fts3", "fts4", "fts3tokenize", "fts5", "fts5vocab", "rtree", "rtree_i32", "dbstat",
    "json_each", "json_tree"]

/-! ### Catalogs -/

/-- What a connection knows. -/
structure Catalog where
  main : Database
  temp : Database
  medium : Medium
  /-- `temp` has been needed. -/
  tempIsOpen : Bool
  modules : Roster

namespace Catalog

/-- A connection to a database. -/
def connected (medium : Medium) (main : Database) : Catalog :=
  ⟨main, Schema.temp.empty, medium, false, .ofList commonModules⟩

/-- No tables. -/
def empty : Catalog := connected .memory Schema.main.empty

/-- What may be done with `main`. -/
def state (catalog : Catalog) : FileState := catalog.medium.state

/-- One database. -/
def database (catalog : Catalog) : Schema → Database
  | .main => catalog.main
  | .temp => catalog.temp

/-- Replaces one database. -/
def setDatabase (catalog : Catalog) (schema : Schema) (database : Database) : Catalog :=
  match schema with
  | .main => { catalog with main := database }
  | .temp => { catalog with temp := database }

/-- The tables of one database. -/
def tables (catalog : Catalog) (schema : Schema) : List Table := (catalog.database schema).tables

/-- The table of a name in one database. -/
def tableIn? (catalog : Catalog) (schema : Schema) (name : String) : Option Table :=
  (catalog.database schema).table? name

/-- The databases in which a table is looked up, in order; `qualifier` is the name of a database
if one is written. -/
def searched (qualifier : Option String) : List Schema :=
  match qualifier with
  | none => [.temp, .main]
  | some name => (Schema.ofName? name).toList

/-- The database that holds the table of a name. -/
def resolve? (catalog : Catalog) (qualifier : Option String) (name : String) : Option Schema :=
  (searched qualifier).find? fun schema => (catalog.tableIn? schema name).isSome

/-- The table of a name. -/
def table? (catalog : Catalog) (qualifier : Option String) (name : String) : Option Table :=
  (catalog.resolve? qualifier name).bind fun schema => catalog.tableIn? schema name

/-- Drops the table of a name in a database. -/
def drop (catalog : Catalog) (schema : Schema) (name : String) : Catalog :=
  catalog.setDatabase schema ((catalog.database schema).drop name)

/-- Adds a table to a database. -/
def add (catalog : Catalog) (schema : Schema) (table : Table) : Catalog :=
  catalog.setDatabase schema ((catalog.database schema).add (schema.declaration table) table)

/-- Adds rows to the table of a name. -/
def insertRows (catalog : Catalog) (qualifier : Option String) (name : String)
    (rows : List (List Cell)) : Catalog :=
  match catalog.resolve? qualifier name with
  | none => catalog
  | some schema =>
    catalog.setDatabase schema ((catalog.database schema).insertRows name rows)

/-- `temp` is needed. -/
def openTemp (catalog : Catalog) : Catalog := { catalog with tempIsOpen := true }

/-- Meets the module behind a built-in table under the name that is written. -/
def meet (catalog : Catalog) (name : String) : Catalog :=
  { catalog with modules := catalog.modules.insert name }

end Catalog

end Crosstab.Engine

import Crosstab.Engine.Inventory
import Crosstab.Engine.Statistics

/-!
# Built-in tables

Tables that every connection has without their being created: those that take JSON apart, one that
tells about pages, and those that tell about settings. What some of them tell depends on arguments;
read as tables, they get none and are empty. They can be read like other tables, but not dropped,
and they have no database: a qualifier in front of their names does not count.
-/

namespace Crosstab.Engine

/-- A table that every connection has. -/
structure Builtin where
  name : String
  columns : List Column
  /-- The columns that are not shown. -/
  hidden : List Column := []
  /-- The rows, as far as they depend on what is known. -/
  rows : Catalog → List Row
  /-- Why the rows cannot be read. -/
  fault : Option EngineError := none
  /-- Reading the rows makes the statements outdated that are to write behind that. -/
  outdates : Bool := false
  /-- The column whose distinct cells are found in ascending order. -/
  ordered : Option Nat := none

namespace Builtin

/-! ### Kinds of built-in tables -/

/-- The column that takes an argument. -/
def argument (name : String) : Column := ⟨name, .numeric⟩

/-- A table about a connection. -/
def ofConnection (name : String) (columns arguments : List String)
    (rows : Catalog → List (List Cell)) : Builtin :=
  { name := "pragma_" ++ name
    columns := columns.map Column.plain
    hidden := arguments.map argument
    rows := fun catalog => numbered (rows catalog) }

/-- The table of one setting, which may be that of one database. -/
def ofSetting (arguments : List String) (setting : String × String × Cell) : Builtin :=
  ofConnection setting.1 [setting.2.1] arguments fun _ => [[setting.2.2]]

/-- A table that is empty without an argument. -/
def ofArgument (name : String) (columns : List String) : Builtin :=
  ofConnection name columns ["arg", "schema"] fun _ => []

/-! ### Settings -/

/-- The settings of a connection: the name, the column that shows it, and the value. -/
def connectionSettings : List (String × String × Cell) :=
  [("busy_timeout", "timeout", .integer 5000), ("encoding", "encoding", .ofText "UTF-8")] ++
    (["automatic_index", "data_version", "foreign_keys", "short_column_names",
      "trusted_schema"].map fun name => (name, name, .integer 1)) ++
    (["analysis_limit", "application_id", "cell_size_check", "checkpoint_fullfsync",
      "count_changes", "defer_foreign_keys", "empty_result_callbacks", "full_column_names",
      "fullfsync", "hard_heap_limit", "ignore_check_constraints", "legacy_alter_table",
      "query_only", "read_uncommitted", "recursive_triggers", "reverse_unordered_selects",
      "secure_delete", "soft_heap_limit", "temp_store", "threads", "user_version",
      "writable_schema"].map fun name => (name, name, .integer 0))

/-- The settings of a database. -/
def databaseSettings : List (String × String × Cell) :=
  [("auto_vacuum", "auto_vacuum", .integer 0), ("cache_size", "cache_size", .integer (-2000)),
    ("cache_spill", "cache_spill", .integer 483),
    ("default_cache_size", "cache_size", .integer (-2000)),
    ("journal_size_limit", "journal_size_limit", .integer (-1)),
    ("locking_mode", "locking_mode", .ofText "normal"),
    ("max_page_count", "max_page_count", .integer 4294967294),
    ("page_size", "page_size", .integer 4096), ("synchronous", "synchronous", .integer 2)]

/-! ### What changes -/

/-- How `main` undoes what is not to last. -/
def journalMode (catalog : Catalog) : String :=
  match catalog.medium with
  | .memory => "memory"
  | _ => "delete"

/-- The databases of a connection. -/
def databaseRows (catalog : Catalog) : List (List Cell) :=
  [.integer 0, .ofText Schema.main.name, .ofText catalog.medium.path] ::
    if catalog.tempIsOpen then [[.integer 1, .ofText Schema.temp.name, .ofText ""]] else []

/-- How many columns the table of a listed name has. -/
def columnCount (database : Database) (name : String) : Nat :=
  match database.table? name with
  | some table => table.columns.length
  | none => schemaTableColumns.length

/-- The tables of a database. -/
def tableRows (catalog : Catalog) (schema : Schema) : List (List Cell) :=
  let database := catalog.database schema
  database.roster.names.map fun name =>
    let shown := if name = schema.tableName then schema.listedName else name
    [.ofText schema.name, .ofText shown, .ofText "table", countCell (columnCount database name),
      .integer 0, .integer 0]

/-- The tables that tell what changes with the tables. -/
def changing : List Builtin :=
  [ofConnection "database_list" ["seq", "name", "file"] [] databaseRows,
    ofConnection "freelist_count" ["freelist_count"] [] fun catalog =>
      [[countCell catalog.main.pages.freeCount]],
    ofConnection "journal_mode" ["journal_mode"] ["schema"] fun catalog =>
      [[.ofText (journalMode catalog)]],
    ofConnection "module_list" ["name"] [] fun catalog =>
      catalog.modules.names.map fun name => [.ofText name],
    ofConnection "page_count" ["page_count"] ["schema"] fun catalog =>
      [[countCell catalog.main.pages.count]],
    ofConnection "schema_version" ["schema_version"] [] fun catalog =>
      [[countCell catalog.main.version]],
    ofConnection "table_list" ["schema", "name", "type", "ncol", "wr", "strict"] ["arg"]
      fun catalog => tableRows catalog .main ++ tableRows catalog .temp]

/-! ### Checks -/

/-- The names of the checks. -/
def checkNames : List String := ["integrity_check", "quick_check"]

/-- The checks of the databases, which find nothing wrong. -/
def checks : List Builtin :=
  checkNames.map fun name =>
    ofConnection name [name] ["arg", "schema"] fun _ => [[.ofText "ok"]]

/-- The table is a check. -/
def isCheck (builtin : Builtin) : Bool :=
  checkNames.any fun name => builtin.name == "pragma_" ++ name

/-- What a check finds while a table of `temp` is created: its page belongs to no table yet. -/
def checkCreating (catalog : Catalog) : List Row :=
  let page := catalog.temp.takePage.1
  numbered [[.ofText s!"*** in database {Schema.temp.name} ***\nPage {page}: never used"]]

/-! ### What the engine lists about itself -/

/-- The table of a listing of names. -/
def ofNames (name column : String) (names : List String) : Builtin :=
  ofConnection name [column] [] fun _ => names.map fun listed => [.ofText listed]

/-- The inventory. -/
def inventory : List Builtin :=
  [ofNames "pragma_list" "name" settingNames,
    ofNames "compile_options" "compile_options" buildOptions,
    ofConnection "function_list" ["name", "builtin", "type", "enc", "narg", "flags"] [] fun _ =>
      FunctionFamily.allRows]

/-! ### All built-in tables -/

/-- What takes JSON apart: its columns. -/
def jsonColumns : List String :=
  ["key", "value", "type", "atom", "id", "parent", "fullkey", "path"]

/-- The tables that come with modules of their own. -/
def ofModules : List Builtin :=
  (["json_each", "json_tree"].map fun name =>
    { name
      columns := jsonColumns.map Column.plain
      hidden := ["json", "root"].map argument
      rows := fun _ => [] }) ++
    [{ name := "fts3tokenize"
       columns := ["input", "token", "start", "end", "position"].map Column.plain
       rows := fun _ => []
       fault := some .failed },
      { name := "dbstat"
        columns := statisticsColumns
        hidden := statisticsHidden
        rows := Catalog.statistics
        ordered := some 0 }]

/-- All built-in tables. -/
def all : List Builtin :=
  ofModules ++
    [ofConnection "collation_list" ["seq", "name"] [] fun _ =>
      [[.integer 0, .ofText "RTRIM"], [.integer 1, .ofText "NOCASE"],
        [.integer 2, .ofText "BINARY"]],
    { ofConnection "optimize" ["optimize"] ["arg"] fun _ => [] with outdates := true },
    ofArgument "foreign_key_check" ["table", "rowid", "parent", "fkid"],
    ofArgument "foreign_key_list"
      ["id", "seq", "table", "from", "to", "on_update", "on_delete", "match"],
    ofArgument "index_info" ["seqno", "cid", "name"],
    ofArgument "index_list" ["seq", "name", "unique", "origin", "partial"],
    ofArgument "index_xinfo" ["seqno", "cid", "name", "desc", "coll", "key"],
    ofArgument "table_info" ["cid", "name", "type", "notnull", "dflt_value", "pk"],
    ofArgument "table_xinfo" ["cid", "name", "type", "notnull", "dflt_value", "pk", "hidden"]] ++
    connectionSettings.map (ofSetting []) ++ databaseSettings.map (ofSetting ["schema"]) ++
    changing ++ checks ++ inventory

/-- The built-in table of a name. -/
def find? (name : String) : Option Builtin :=
  all.find? fun builtin => Text.sameButCase builtin.name name

/-- A built-in table as a relation; `creating` tells whether a table of `temp` is created from
it. -/
def relation (builtin : Builtin) (catalog : Catalog) (creating : Bool) : Relation :=
  { columns := builtin.columns
    hidden := builtin.hidden
    rows :=
      if creating && builtin.isCheck then checkCreating catalog else builtin.rows catalog
    fault := if creating && builtin.outdates then some .outdated else builtin.fault
    ordered := builtin.ordered }

end Builtin

end Crosstab.Engine

import Crosstab.Engine.Execution

/-!
# Tables of a catalog

What the operations of a catalog do to its tables, apart from pages, rosters and the modules that
a connection meets: a drop filters the tables of one database, a creation adds one behind the
others, and noting a statement leaves all tables alone.
-/

namespace Crosstab.Engine

/-! ### Databases -/

/-- Steps that keep the entries of a database keep them together. -/
theorem Database.entries_foldl {step : Database → Entry → Database}
    (h : ∀ database entry, (step database entry).entries = database.entries)
    (steps : List Entry) (database : Database) :
    (steps.foldl step database).entries = database.entries := by
  induction steps generalizing database with
  | nil => rfl
  | cons entry steps ih => rw [List.foldl_cons, ih, h]

theorem Database.entries_drop (database : Database) (name : String) :
    (database.drop name).entries =
      database.entries.filter fun entry => !entry.table.isNamed name := by
  unfold Database.drop
  rw [List.partition_eq_filter_filter]
  dsimp only
  rw [Database.entries_foldl (by intro database entry; rfl)]
  rfl

theorem Database.tables_drop (database : Database) (name : String) :
    (database.drop name).tables =
      database.tables.filter fun table => !table.isNamed name := by
  unfold Database.tables
  rw [Database.entries_drop, List.filter_map]
  rfl

theorem Database.entries_add (database : Database) (statement : String) (table : Table) :
    ∃ entry, entry.table = table ∧
      (database.add statement table).entries = database.entries ++ [entry] :=
  ⟨_, rfl, rfl⟩

theorem Database.tables_add (database : Database) (statement : String) (table : Table) :
    (database.add statement table).tables = database.tables ++ [table] := by
  obtain ⟨entry, htable, hentries⟩ := database.entries_add statement table
  unfold Database.tables
  rw [hentries, List.map_append, List.map_singleton, htable]

/-- Dropping what has just been added leaves the tables with all that belongs to them. -/
theorem Database.entries_drop_add {database : Database} {table : Table}
    (h : database.table? table.name = none) (statement : String) :
    ((database.add statement table).drop table.name).entries = database.entries := by
  obtain ⟨entry, htable, hentries⟩ := database.entries_add statement table
  have hkept : database.entries.filter (fun entry => !entry.table.isNamed table.name) =
      database.entries := by
    rw [List.filter_eq_self]
    intro other hother
    have hmem : other.table ∈ database.tables := List.mem_map_of_mem hother
    simpa using List.find?_eq_none.1 h other.table hmem
  have hnamed : table.isNamed table.name = true := by simp [Table.isNamed, Text.sameButCase]
  rw [Database.entries_drop, hentries, List.filter_append, hkept]
  simp [htable, hnamed]

/-! ### Catalogs -/

/-- A catalog has the tables of another one, in the same medium. -/
structure SameTables (catalog after : Catalog) : Prop where
  main : after.main = catalog.main
  temp : after.temp = catalog.temp
  medium : after.medium = catalog.medium

namespace SameTables

variable {catalog middle after : Catalog}

theorem refl (catalog : Catalog) : SameTables catalog catalog := ⟨rfl, rfl, rfl⟩

theorem trans (h : SameTables catalog middle) (h' : SameTables middle after) :
    SameTables catalog after :=
  ⟨h'.main.trans h.main, h'.temp.trans h.temp, h'.medium.trans h.medium⟩

theorem database_eq (h : SameTables catalog after) (schema : Schema) :
    after.database schema = catalog.database schema := by
  cases schema with
  | main => exact h.main
  | temp => exact h.temp

theorem tables_eq (h : SameTables catalog after) (schema : Schema) :
    after.tables schema = catalog.tables schema := by
  rw [Catalog.tables, Catalog.tables, h.database_eq]

theorem tableIn?_eq (h : SameTables catalog after) (schema : Schema) (name : String) :
    after.tableIn? schema name = catalog.tableIn? schema name := by
  rw [Catalog.tableIn?, Catalog.tableIn?, h.database_eq]

theorem resolve?_eq (h : SameTables catalog after) (qualifier : Option String) (name : String) :
    after.resolve? qualifier name = catalog.resolve? qualifier name := by
  unfold Catalog.resolve?
  congr 1
  funext schema
  rw [h.tableIn?_eq]

theorem state_eq (h : SameTables catalog after) : after.state = catalog.state := by
  rw [Catalog.state, Catalog.state, h.medium]

end SameTables

theorem sameTables_meetTable (catalog : Catalog) (name : TableName) :
    SameTables catalog (catalog.meetTable name) := by
  unfold Catalog.meetTable
  split <;> exact ⟨rfl, rfl, rfl⟩

theorem sameTables_notingTable (catalog : Catalog) (command : Command) :
    SameTables catalog (catalog.notingTable command) := by
  have hmeet := sameTables_meetTable catalog command.table
  have hopen : SameTables catalog (catalog.meetTable command.table).openTemp :=
    ⟨hmeet.main, hmeet.temp, hmeet.medium⟩
  unfold Catalog.notingTable
  cases command with
  | drop => exact hmeet
  | _ =>
    dsimp only
    split
    · exact hopen
    · exact hmeet

/-- Noting a statement leaves all tables alone. -/
theorem sameTables_noting (catalog : Catalog) (sql : String) :
    SameTables catalog (catalog.noting sql) := by
  have hopen : SameTables catalog catalog.openTemp := ⟨rfl, rfl, rfl⟩
  unfold Catalog.noting
  dsimp only
  split
  · rcases (Command.read sql).toOption.map Prod.fst with _ | command
    · exact .refl catalog
    · exact sameTables_notingTable catalog command
  · split
    · rcases (Command.read sql).toOption.map Prod.fst with _ | command
      · exact hopen
      · exact hopen.trans (sameTables_notingTable _ command)
    · exact .refl catalog

theorem Catalog.tables_drop (catalog : Catalog) (schema : Schema) (name : String) :
    (catalog.drop schema name).tables schema =
      (catalog.tables schema).filter fun table => !table.isNamed name := by
  unfold Catalog.drop Catalog.tables
  cases schema <;> exact Database.tables_drop _ name

theorem Catalog.tables_add (catalog : Catalog) (schema : Schema) (table : Table) :
    (catalog.add schema table).tables schema = catalog.tables schema ++ [table] := by
  unfold Catalog.add Catalog.tables
  cases schema <;> exact Database.tables_add _ _ table

/-- Replacing one database leaves the other one alone. -/
theorem Catalog.tables_setDatabase_of_ne (catalog : Catalog) {schema other : Schema}
    (h : other ≠ schema) (database : Database) :
    (catalog.setDatabase schema database).tables other = catalog.tables other := by
  cases schema <;> cases other <;> first | rfl | exact absurd rfl h

/-! ### Names -/

theorem sameButCase_refl (name : String) : Text.sameButCase name name = true := by
  simp [Text.sameButCase]

theorem sameButCase_symm {name other : String} (h : Text.sameButCase name other = true) :
    Text.sameButCase other name = true := by
  simp only [Text.sameButCase, beq_iff_eq] at h ⊢
  exact h.symm

theorem sameButCase_trans {name middle other : String} (h : Text.sameButCase name middle = true)
    (h' : Text.sameButCase middle other = true) : Text.sameButCase name other = true := by
  simp only [Text.sameButCase, beq_iff_eq] at h h' ⊢
  exact h.trans h'

/-- A name and that of the table that it finds stand for the same tables. -/
theorem Table.isNamed_eq {table : Table} {name : String} (h : table.isNamed name = true)
    (other : Table) : other.isNamed table.name = other.isNamed name := by
  rw [Bool.eq_iff_iff]
  exact ⟨fun hother => sameButCase_trans hother h, fun hother =>
    sameButCase_trans hother (sameButCase_symm h)⟩

theorem Catalog.tableIn?_eq_some {catalog : Catalog} {schema : Schema} {name : String}
    {table : Table} (h : catalog.tableIn? schema name = some table) :
    table ∈ catalog.tables schema ∧ table.isNamed name = true := by
  have hfind : (catalog.tables schema).find? (fun table => table.isNamed name) = some table := h
  exact ⟨List.mem_of_find?_eq_some hfind, by simpa using List.find?_some hfind⟩

/-! ### What names find -/

theorem Catalog.find?_of_resolve {catalog : Catalog} {qualifier : Option String} {name : String}
    {schema : Schema} (h : catalog.resolve? qualifier name = some schema) :
    ∃ table, catalog.tableIn? schema name = some table ∧
      catalog.find? qualifier name = some (.stored schema table) := by
  have hsearch : (Catalog.searched qualifier).find?
      (fun schema => (catalog.tableIn? schema name).isSome) = some schema := h
  have hsome : (catalog.tableIn? schema name).isSome = true := by
    simpa using List.find?_some hsearch
  obtain ⟨table, htable⟩ := Option.isSome_iff_exists.1 hsome
  refine ⟨table, htable, ?_⟩
  simp [Catalog.find?, Catalog.stored?, h, htable]

/-- What a name stands for, and how it is found. -/
theorem Catalog.find?_cases {catalog : Catalog} {qualifier : Option String} {name : String}
    {found : Found} (h : catalog.find? qualifier name = some found) :
    (∃ schema table, found = .stored schema table ∧
        catalog.resolve? qualifier name = some schema ∧
        catalog.tableIn? schema name = some table) ∨
      (∃ schema, found = .schemaTable schema) ∨
      ∃ shown builtin, found = .builtin shown builtin ∧ Builtin.find? name = some builtin := by
  rcases hresolve : catalog.resolve? qualifier name with _ | schema
  · have hstored : catalog.stored? qualifier name = none := by
      simp [Catalog.stored?, hresolve]
    rw [Catalog.find?, hstored] at h
    rcases hschema : schemaTable? qualifier name with _ | schema
    · rcases hbuiltin : Builtin.find? name with _ | builtin
      · simp [hschema, Catalog.builtin?, hbuiltin] at h
      · simp only [hschema, Catalog.builtin?, hbuiltin, Option.map_none] at h
        exact .inr (.inr ⟨_, _, (Option.some.inj h).symm, rfl⟩)
    · simp only [hschema, Option.map_some] at h
      exact .inr (.inl ⟨schema, (Option.some.inj h).symm⟩)
  · obtain ⟨table, htable, hfind⟩ := Catalog.find?_of_resolve hresolve
    cases h.symm.trans hfind
    exact .inl ⟨schema, table, rfl, rfl, htable⟩

theorem Catalog.find?_of_table {catalog : Catalog} {qualifier : Option String} {name : String}
    {table : Table} (h : catalog.table? qualifier name = some table) :
    ∃ schema, catalog.find? qualifier name = some (.stored schema table) := by
  obtain ⟨schema, hresolve, htable⟩ := Option.bind_eq_some_iff.1 h
  obtain ⟨found, hfound, hfind⟩ := Catalog.find?_of_resolve hresolve
  cases htable.symm.trans hfound
  exact ⟨schema, hfind⟩

theorem SameTables.table?_eq {catalog after : Catalog} (h : SameTables catalog after)
    (qualifier : Option String) (name : String) :
    after.table? qualifier name = catalog.table? qualifier name := by
  unfold Catalog.table?
  rw [h.resolve?_eq]
  congr 1
  funext schema
  rw [h.tableIn?_eq]

end Crosstab.Engine

import Crosstab.Engine.Roster
import Crosstab.Engine.Storage.Balance
import Crosstab.Engine.Table

/-!
# Databases

The tables of one database, and how it keeps them: each in a tree of pages of its own, besides a
tree that starts on the first page and has a record for every table. A database also remembers in
which order it lists its tables, and how often they have changed.
-/

namespace Crosstab.Engine

open Storage (PageTree Pages Record)

/-! ### Entries -/

/-- A table in its database. -/
structure Entry where
  table : Table
  /-- Its number among the tables of the database. -/
  number : Nat
  /-- The statement that would create it. -/
  statement : String
  /-- The pages that hold its rows. -/
  tree : PageTree

namespace Entry

/-- The page where the table starts. -/
def page (entry : Entry) : Nat := entry.tree.page

/-- What the database records about the table. -/
def cells (entry : Entry) : List Cell :=
  [.ofText "table", .ofText entry.table.name, .ofText entry.table.name,
    .integer (Int64.ofNat entry.page), .ofText entry.statement]

/-- The record of the table, before anything is known about it. -/
def blankPayload : Nat := 6

/-- The record of the table. -/
def payload (entry : Entry) : Nat := Storage.payloadSize (entry.cells.map Storage.Stored.ofCell)

/-- Adds rows to the table. -/
def addRows (entry : Entry) (rows : List (List Cell)) (pages : Pages) : Entry × Pages :=
  let table := entry.table.addRows rows
  let payloads := (table.rows.drop entry.table.rows.length).map table.payload
  let (tree, pages) := entry.tree.pushAll (entry.table.rows.length + 1) pages payloads
  ({ entry with table, tree }, pages)

end Entry

/-! ### Databases -/

/-- The tables of one database in the order of their creation. -/
structure Database where
  entries : List Entry
  /-- The pages that hold the records of the tables. -/
  schema : PageTree
  pages : Pages
  /-- The names of the tables, in the order in which they are listed. -/
  roster : Roster
  /-- How many tables have been created and dropped. -/
  version : Nat

namespace Database

/-- A database without tables, which has itself under a name in its list of tables. -/
def empty (ownName : String) : Database :=
  ⟨[], .empty 1, .empty, Roster.empty.insert ownName, 0⟩

/-- The tables. -/
def tables (database : Database) : List Table := database.entries.map Entry.table

/-- The table of a name. -/
def table? (database : Database) (name : String) : Option Table :=
  database.tables.find? fun table => table.isNamed name

/-- The number that the next table gets. -/
def nextNumber (database : Database) : Nat :=
  database.entries.foldl (fun most entry => max most entry.number) 0 + 1

/-- The page where the next table starts, and the pages behind that. -/
def takePage (database : Database) : Nat × Pages := database.pages.started.take (some 1)

/-- Adds a table under the statement that would create it. -/
def add (database : Database) (statement : String) (table : Table) : Database :=
  let number := database.nextNumber
  let (page, pages) := database.takePage
  let (schema, pages) := database.schema.push ⟨number, Entry.blankPayload, []⟩ pages
  let (tree, pages) := (PageTree.empty page).pushAll 1 pages (table.rows.map table.payload)
  let entry : Entry := { table, number, statement, tree }
  let (record, pages) := Record.create number entry.payload pages
  let (schema, pages) := schema.replaceLast record pages
  { entries := database.entries ++ [entry]
    schema
    pages
    roster := database.roster.insert table.name
    version := database.version + 1 }

/-- Drops the table of a name. -/
def drop (database : Database) (name : String) : Database :=
  let (dropped, kept) := database.entries.partition fun entry => entry.table.isNamed name
  dropped.foldl (fun database entry =>
    let (schema, pages) := database.schema.erase entry.number database.pages
    { database with
      schema
      pages := pages.releaseAll entry.tree.allPages
      roster := database.roster.erase entry.table.name
      version := database.version + 1 })
    { database with entries := kept }

/-- Adds rows to the table of a name. -/
def insertRows (database : Database) (name : String) (rows : List (List Cell)) : Database :=
  let (entries, pages) := database.entries.foldr (fun entry (entries, pages) =>
    if entry.table.isNamed name then
      let (entry, pages) := entry.addRows rows pages
      (entry :: entries, pages)
    else (entry :: entries, pages)) ([], database.pages)
  { database with entries, pages }

end Database

end Crosstab.Engine

import Crosstab.Engine.SchemaTable
import Crosstab.Engine.Storage.Summary

/-!
# Statistics of pages

The table that tells about each page of `main` that is in use: first the pages of the list of
tables, then those of the tables. A database without pages has no statistics.
-/

namespace Crosstab.Engine

open Storage (PageSummary pageSize)

/-- The columns of the statistics. -/
def statisticsColumns : List Column :=
  [⟨"name", .text⟩, ⟨"path", .text⟩, ⟨"pageno", .integer⟩, ⟨"pagetype", .text⟩,
    ⟨"ncell", .integer⟩, ⟨"payload", .integer⟩, ⟨"unused", .integer⟩, ⟨"mx_payload", .integer⟩,
    ⟨"pgoffset", .integer⟩, ⟨"pgsize", .integer⟩]

/-- The columns that are not shown: the database, and whether a row is about a whole table. -/
def statisticsHidden : List Column := [⟨"schema", .text⟩, ⟨"aggregate", .numeric⟩]

/-- The trees of a database by the names under which they are listed. -/
def Database.trees (database : Database) (ownName : String) : List (String × Storage.PageTree) :=
  (ownName, database.schema) :: database.entries.map fun entry => (entry.table.name, entry.tree)

/-- A number in a row of statistics. -/
def countCell (n : Nat) : Cell := .integer (Int64.ofNat n)

/-- The row of a page; `place` is the page whose place in the file it tells. -/
def statisticsRow (table : String) (summary : PageSummary) (place : Nat) : Row :=
  ⟨summary.page,
    [.ofText table, .ofText summary.path, countCell summary.page, .ofText summary.kind,
      countCell summary.cells, countCell summary.payload, countCell summary.unused,
      countCell summary.longest, countCell ((place - 1) * pageSize), countCell pageSize,
      .ofText Schema.main.name, .integer 0]⟩

/-- The rows of the pages of a table; a page with the end of a record tells the place of the page
listed before it. -/
def statisticsRows (table : String) (before : Nat) : List PageSummary → List Row
  | [] => []
  | summary :: summaries =>
    statisticsRow table summary (if summary.kind = "overflow" then before else summary.page) ::
      statisticsRows table summary.page summaries

/-- The statistics of `main`. -/
def Catalog.statistics (catalog : Catalog) : List Row :=
  if catalog.main.pages.count = 0 then []
  else
    (catalog.main.trees Schema.main.listedName).flatMap fun (name, tree) =>
      statisticsRows name tree.page (tree.summaries "/")

end Crosstab.Engine

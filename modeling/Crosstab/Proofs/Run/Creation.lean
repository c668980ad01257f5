import Crosstab.Proofs.Engine.SourceNames
import Crosstab.Proofs.Run.Frame

/-!
# What a run creates

A run that succeeds has found its source, and a real one has put a table under the name of its
target. That table is computed from what the names of the spec are read as in the source: a name
that the source does not know is read as the text that it spells.

    source ──names read──▶ readTable ──named──▶ target
-/

namespace Crosstab

open Engine
open Sql (Token)

/-- What the source of a spec stands for behind the drop. -/
def sourceFound? (spec : Spec) (options : Options) (catalog : Catalog) : Option Found :=
  (dropped spec options catalog).2.found? spec.source

section

variable {spec : Spec} {options : Options} {catalog : Catalog} {report : Report}

/-- The steps of a run that succeeds. -/
theorem exists_course (hrun : ((runSpec spec options : Run Catalog Report).start catalog).1 =
      .ok report) :
    ∃ behind discovered statement, dropped spec options catalog = (.ok (), behind) ∧
      Store.discover spec behind = (.ok report.values, discovered) ∧
      Sql.build spec options.dialect options.naming report.values = .ok statement ∧
      created statement options discovered =
        (.ok (), ((runSpec spec options).start catalog).2.store) ∧
      report.columns = statement.columns := by
  obtain ⟨hanswer, hstore⟩ := (follows_runSpec spec options).start catalog
  rw [hanswer] at hrun
  rw [hstore]
  exact course_eq_ok (Prod.ext hrun rfl)

/-- A real run has put a table under the name of its target: it is computed from a relation. -/
structure CreatesFrom (spec : Spec) (options : Options) (catalog : Catalog) (report : Report)
    (relation : Relation) (key : Column) (table : Table) : Prop where
  named? : ((runSpec spec options).start catalog).2.store.named? spec.target = some table
  table_eq : table = readTable table.name spec relation key
    (report.values.values.map Value.readBack) report.columns
  length_eq : report.columns.length = report.values.values.length
  /-- A key that is a column is the one that is declared. -/
  key_eq : ∀ index, Source.named? relation spec.rowKey = some (.column index) →
    relation.allColumns[index]? = some key

theorem exists_createsFrom (hreal : options.dryRun = false)
    (hrun : ((runSpec spec options : Run Catalog Report).start catalog).1 = .ok report) :
    ∃ found relation key table, sourceFound? spec options catalog = some found ∧
      relation.IsOf found ∧ CreatesFrom spec options catalog report relation key table := by
  obtain ⟨behind, discovered, statement, hdrop, hdiscover, hbuild, hcreate, hcolumns⟩ :=
    exists_course hrun
  rw [sourceFound?, hdrop]
  rw [dropped_of_real hreal] at hdrop
  rw [created_of_real hreal] at hcreate
  have hfinite : ∀ x, Value.real x ∈ report.values.values → x.isFinite = true :=
    fun x => isFinite_of_discover (congrArg Prod.fst hdiscover)
  obtain ⟨literals, target, query, table, hliterals, hasks, hcreates, hafter⟩ :=
    exists_creates hbuild hfinite (isSome_tableRef?_of_dropTable hdrop)
      (isSome_tableRef?_of_discover (congrArg Prod.fst hdiscover)) (execute_eq_ok_of_store hcreate)
  -- neither the query nor what the store notes changes the tables
  have hsame : SameTables behind (discovered.noting statement.sql) := by
    have hquery := sameTables_discover spec behind
    rw [hdiscover] at hquery
    exact hquery.trans (sameTables_noting discovered statement.sql)
  have hlength : statement.columns.length = literals.length := by
    rw [(Sql.claimed_of_build hbuild).length_eq, hliterals.length_eq]
  obtain ⟨relation, hrelation, -, htable⟩ := hcreates.made
  obtain ⟨found, hfound, hof⟩ := exists_isOf hsame hcreates.source hrelation
  rcases pivotTable_quoted hasks hlength statement.sql target.table.text relation with
    hmany | hgroup | hmade
  · rw [hmany] at htable
    cases htable
  · rw [hgroup] at htable
    cases htable
  rw [hmade] at htable
  have hread := Except.ok.inj htable
  refine ⟨found, relation, resultColumn relation query.key (Source.reads relation spec.rowKey),
    table, hfound, hof, ?_, ?_, ?_, ?_⟩
  · have hname : target.table.text = table.name := congrArg Table.name hread
    obtain ⟨hsearched, hnew⟩ := checkTarget_eq_ok hcreates.isFree
    rw [hname] at hnew
    rw [hafter, Catalog.named?, hcreates.refers, Option.bind_some, hname]
    exact table?_add hsearched hnew
  · rw [hcolumns, ← map_literalCell hliterals, ← hread]
    rfl
  · rw [hcolumns]
    exact (Sql.claimed_of_build hbuild).length_eq
  · intro index hindex
    obtain ⟨column, hcolumn, -⟩ := exists_column_of_named? hindex
    rw [reads_of_named? hindex, resultColumn, hcolumn, Option.getD_some]

/-- The table that a run has created can be asked for under the name of its target. -/
theorem exists_readable_target {after : Catalog} (hreal : options.dryRun = false)
    (hrun : ((runSpec spec options : Run Catalog Report).start catalog).1 = .ok report)
    (hafter : ((runSpec spec options : Run Catalog Report).start catalog).2.store = after) :
    IsWhole spec.target.toList ∧ after.state.isUsable = true ∧
      ∃ table, after.named? spec.target = some table := by
  obtain ⟨_, _, _, table, -, -, htable⟩ := exists_createsFrom hreal hrun
  obtain ⟨behind, discovered, statement, hdrop, hdiscover, hbuild, hcreate, -⟩ :=
    exists_course hrun
  rw [dropped_of_real hreal] at hdrop
  rw [created_of_real hreal] at hcreate
  obtain ⟨hwhole, -⟩ := execute_dropText (execute_eq_ok_of_store hdrop)
  obtain ⟨_, _, _, created, -, -, hcreates, hadd⟩ :=
    exists_creates hbuild (fun _ => isFinite_of_discover (congrArg Prod.fst hdiscover))
      (isSome_tableRef?_of_dropTable hdrop)
      (isSome_tableRef?_of_discover (congrArg Prod.fst hdiscover)) (execute_eq_ok_of_store hcreate)
  have hstate : after.state = ((discovered.noting statement.sql).add .temp created).state :=
    congrArg Catalog.state (hafter.symm.trans hadd)
  refine ⟨hwhole, ?_, table, ?_⟩
  · rw [hstate]
    exact hcreates.isUsable
  · rw [← hafter]
    exact htable.named?

end

end Crosstab

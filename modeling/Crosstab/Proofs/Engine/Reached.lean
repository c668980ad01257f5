import Crosstab.Engine.Archive
import Crosstab.Proofs.Engine.Execution
import Crosstab.Proofs.Engine.Relations

/-!
# The states of a store

The catalogs that a connection can come to: by connecting, by building tables, and by executing
and querying whatever texts. In all of them every table is sound, because rows are stored as their
columns ask, and a created table copies a column together with its affinity.
-/

namespace Crosstab.Engine

/-! ### States -/

/-- A connection can come to know the catalog. -/
inductive Reached : Catalog → Prop where
  | connected (medium : Medium) : Reached (.connected medium Schema.main.empty)
  /-- The file of a connection is opened again. -/
  | reconnected {catalog : Catalog} (medium : Medium) :
      Reached catalog → Reached (.connected medium catalog.main)
  | performed {catalog : Catalog} (step : Step) : Reached catalog → Reached (catalog.perform step)
  | executed {catalog : Catalog} (sql : String) :
      Reached catalog → Reached (Store.execute sql catalog).2
  | queried {catalog : Catalog} (sql : String) :
      Reached catalog → Reached (Store.query sql catalog).2

/-- All tables are sound. -/
def Catalog.IsSound (catalog : Catalog) : Prop :=
  ∀ schema, ∀ table ∈ catalog.tables schema, table.IsSound

theorem SameTables.isSound {catalog after : Catalog} (h : SameTables catalog after)
    (hsound : catalog.IsSound) : after.IsSound := by
  intro schema table htable
  rw [h.tables_eq] at htable
  exact hsound schema table htable

/-! ### Building tables -/

/-- What is added to a table is stored as its columns ask. -/
theorem Table.IsSound.addRows {table : Table} (h : table.IsSound) (rows : List (List Cell)) :
    (table.addRows rows).IsSound := by
  intro row hrow index
  rcases List.mem_append.1 hrow with hrow | hrow
  · exact h row hrow index
  · obtain ⟨cells, -, rfl⟩ := List.mem_map.1 hrow
    show (table.relation.affinity index).Holds (cellAt index (table.storedRow cells))
    rw [cellAt, Table.storedRow, List.getElem?_zipWith, Relation.affinity, allColumns_relation]
    rcases table.columns[index]? with _ | column
    · exact trivial
    · rcases cells[index]? with _ | cell
      · exact Affinity.holds_null _
      · exact Affinity.holds_convert _ _

/-- Steps that each put one table in front put them all there. -/
theorem map_table_foldr {step : Entry → List Entry × Storage.Pages → List Entry × Storage.Pages}
    {f : Table → Table} (h : ∀ entry state,
      (step entry state).1.map Entry.table = f entry.table :: state.1.map Entry.table)
    (entries : List Entry) (state : List Entry × Storage.Pages) :
    (entries.foldr step state).1.map Entry.table =
      (entries.map Entry.table).map f ++ state.1.map Entry.table := by
  induction entries with
  | nil => rfl
  | cons entry entries ih => rw [List.foldr_cons, h, ih, List.map_cons, List.map_cons,
      List.cons_append]

theorem tables_insertRows (database : Database) (name : String) (rows : List (List Cell)) :
    (database.insertRows name rows).tables = database.tables.map fun table =>
      if table.isNamed name then table.addRows rows else table := by
  unfold Database.insertRows Database.tables
  refine (map_table_foldr (fun entry state => ?_) database.entries _).trans (List.append_nil _)
  by_cases hnamed : entry.table.isNamed name = true
  · simp only [hnamed, if_true]
    rfl
  · simp only [hnamed, if_false, Bool.false_eq_true]
    rfl

theorem isSound_setDatabase {catalog : Catalog} (h : catalog.IsSound) {schema : Schema}
    {database : Database} (hdatabase : ∀ table ∈ database.tables, table.IsSound) :
    (catalog.setDatabase schema database).IsSound := by
  intro other table htable
  by_cases hother : other = schema
  · subst hother
    refine hdatabase table ?_
    cases other <;> exact htable
  · rw [Catalog.tables_setDatabase_of_ne catalog hother] at htable
    exact h other table htable

theorem Catalog.IsSound.add {catalog : Catalog} (h : catalog.IsSound) (schema : Schema)
    {table : Table} (htable : table.IsSound) : (catalog.add schema table).IsSound := by
  refine isSound_setDatabase h fun other hother => ?_
  rw [Database.tables_add, List.mem_append, List.mem_singleton] at hother
  rcases hother with hother | rfl
  · exact h schema other hother
  · exact htable

theorem Catalog.IsSound.drop {catalog : Catalog} (h : catalog.IsSound) (schema : Schema)
    (name : String) : (catalog.drop schema name).IsSound := by
  refine isSound_setDatabase h fun other hother => ?_
  rw [Database.tables_drop] at hother
  exact h schema other (List.mem_filter.1 hother).1

theorem Catalog.IsSound.perform {catalog : Catalog} (h : catalog.IsSound) (step : Step) :
    (catalog.perform step).IsSound := by
  cases step with
  | create name columns => exact h.add .main fun row hrow => nomatch hrow
  | insert name rows =>
    show (catalog.insertRows none name rows).IsSound
    unfold Catalog.insertRows
    split
    · exact h
    · next schema _ =>
      refine isSound_setDatabase h fun other hother => ?_
      rw [tables_insertRows] at hother
      obtain ⟨table, htable, rfl⟩ := List.mem_map.1 hother
      split
      · exact (h schema table htable).addRows rows
      · exact h schema table htable

/-! ### Created tables -/

section

variable {relation : Relation}

/-- The column of a result holds the cells of its operand. -/
theorem holds_resultColumn (h : relation.IsSound) (operand : Operand) (source : Source) {row : Row}
    (hrow : row ∈ relation.rows) :
    (resultColumn relation operand source).affinity.Holds (source.cell row) := by
  cases source with
  | column index =>
    have hholds := h row hrow index
    unfold resultColumn
    dsimp only
    rcases hcolumn : relation.allColumns[index]? with _ | column
    · exact trivial
    · rw [affinity_of_getElem? hcolumn] at hholds
      exact hholds
  | rowNumber => exact rfl
  | constant cell => exact trivial
  | negated source => exact trivial

theorem mem_of_speaker? {picks : List PickPlan} {rows : List Row} {row : Row}
    (h : speaker? picks rows = some row) : row ∈ rows := by
  unfold speaker? at h
  split at h
  · exact List.mem_of_head? h
  · dsimp only at h
    split at h
    · exact List.mem_of_getLast? h
    · exact List.mem_of_find?_eq_some h

/-- The first cell of a row of a pivot table is that of a row of the source. -/
theorem exists_head_pivotRows {key group : Source} {picks : List PickPlan} {rows : List Row}
    {line : List Cell} (h : line ∈ pivotRows key group picks rows) :
    cellAt 0 line = .null ∨ ∃ row ∈ rows, cellAt 0 line = key.cell row := by
  obtain ⟨k, -, rfl⟩ := List.mem_map.1 h
  rcases hspeaker : speaker? picks (rows.filter fun row => k.same (group.cell row)) with _ | row
  · exact .inl (by simp [cellAt, hspeaker])
  · have hmember := (List.mem_filter.1 (mem_of_speaker? hspeaker)).1
    exact .inr ⟨row, hmember, by simp [cellAt, hspeaker]⟩

/-- Of the columns of a pivot table only the first has a type. -/
theorem isSound_pivotTable (h : relation.IsSound) {sql name : String} {query : PivotQuery}
    {table : Table} (htable : pivotTable sql name query relation = .ok table) : table.IsSound := by
  unfold pivotTable at htable
  split at htable
  · cases htable
  obtain ⟨key, -, htable⟩ := bind_eq_ok_iff.1 htable
  obtain ⟨picks, -, htable⟩ := bind_eq_ok_iff.1 htable
  obtain ⟨group, -, htable⟩ := bind_eq_ok_iff.1 htable
  cases htable
  intro line hline index
  -- only the first column has the type of a column of the source, and holds cells of it
  rw [affinity_eq_getD, allColumns_relation, map_affinity_distinctNames, List.map_cons,
    List.map_map]
  cases index with
  | zero =>
    rcases exists_head_pivotRows hline with hnull | ⟨row, hrow, hcell⟩
    · rw [hnull]
      exact Affinity.holds_null _
    · rw [hcell]
      exact holds_resultColumn h query.key key hrow
  | succ index =>
    have hnone : (picks.map (Column.affinity ∘ fun pick => ⟨pick.name, .none⟩))[index]?.getD .none =
        .none := by
      rw [List.getElem?_map]
      cases picks[index]? <;> rfl
    rw [List.getElem?_cons_succ, hnone]
    exact trivial

theorem Catalog.IsSound.findSource {catalog : Catalog} (h : catalog.IsSound) {creating : Bool}
    {name : TableName} (hfound : findSource catalog creating name = .ok relation) :
    relation.IsSound := by
  unfold Engine.findSource at hfound
  split at hfound
  · next found hfind =>
    cases hfound
    rcases Catalog.find?_cases hfind with ⟨schema, table, rfl, -, htable⟩ | ⟨schema, rfl⟩ |
      ⟨shown, table, rfl, htable⟩
    · exact (h schema table (Catalog.tableIn?_eq_some htable).1).relation
    · unfold Found.relation
      dsimp only
      split
      · exact isSound_growingSchemaTable catalog schema
      · exact isSound_schemaTable catalog schema
    · exact Builtin.isSound_relation table (List.mem_of_find?_eq_some htable) catalog creating
  · cases hfound

/-- What a statement does to a sound catalog leaves a sound one. -/
theorem Catalog.IsSound.execute {catalog after : Catalog} (h : catalog.IsSound) {sql : String}
    (hexecute : execute sql catalog = .ok after) : after.IsSound := by
  obtain ⟨plan, hprepare, hperform⟩ := execute_eq_ok_iff.1 hexecute
  obtain ⟨-, command, -, hcheck⟩ := prepare_eq_ok_iff.1 hprepare
  cases plan with
  | idle =>
    cases hperform
    exact h
  | drop schema name =>
    unfold Plan.perform at hperform
    dsimp only at hperform
    split at hperform
    · cases hperform
    · cases hperform
      exact h.drop schema name
  | answer columns rows => cases hperform
  | failing cause => cases hperform
  | create table =>
    cases hperform
    obtain ⟨target, query, relation, -, hrelation, htable⟩ := check_eq_create hcheck
    exact h.add .temp (isSound_pivotTable (h.findSource hrelation) htable)

end

/-- Every catalog that a connection can come to is sound. -/
theorem Reached.isSound {catalog : Catalog} (h : Reached catalog) : catalog.IsSound := by
  have hconnected (medium : Medium) {main : Database}
      (hmain : ∀ table ∈ main.tables, table.IsSound) :
      (Catalog.connected medium main).IsSound := by
    intro schema table htable
    cases schema with
    | main => exact hmain table htable
    | temp => exact nomatch htable
  induction h with
  | connected medium => exact hconnected medium fun table htable => nomatch htable
  | reconnected medium _ ih => exact hconnected medium fun table htable => ih .main table htable
  | performed step _ ih => exact ih.perform step
  | @executed catalog sql _ ih =>
    have hsame := (sameTables_noting catalog sql).isSound ih
    rw [store_execute]
    rcases hexecute : Engine.execute sql (catalog.noting sql) with cause | after
    · exact hsame
    · exact hsame.execute hexecute
  | @queried catalog sql _ ih => exact (sameTables_noting catalog sql).isSound ih

end Crosstab.Engine

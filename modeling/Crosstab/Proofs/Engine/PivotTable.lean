import Crosstab.Proofs.Engine.ColumnNames
import Crosstab.Proofs.Engine.Comparison
import Crosstab.Proofs.Engine.Grouping
import Mathlib.Data.List.Forall2

/-!
# Pivot tables

What a cross-tabulation of a table is, and what the query of a run computes instead: the same with
the cells that the literals of the values are read as in place of the values, and under names that
avoid the words for truth.

    source, values ──CrossTabulates──▶ result
    source, literals ──crossTable──▶ table
-/

namespace Crosstab.Engine

open Sql (Token)

/-! ### Cross-tabulations -/

/-- The cell of a row in a column; columns behind the end of a row hold NULL. -/
def cellAt (index : Nat) (row : List Cell) : Cell := row[index]?.getD .null

/-- The columns of a source that play the parts of a spec. -/
structure Axes where
  key : Nat
  pivot : Nat
  value : Nat

namespace Axes

/-- The columns have the names that a spec gives. -/
structure Of (axes : Axes) (spec : Spec) (source : Table) : Prop where
  key : source.relation.column? spec.rowKey = some axes.key
  pivot : source.relation.column? spec.pivot = some axes.pivot
  value : source.relation.column? spec.value = some axes.value

/-- The name of the key column, as it is declared. -/
def keyName (axes : Axes) (source : Table) : String :=
  source.columns[axes.key]?.elim "" Column.name

/-- The cells of the value column in the rows of a key whose pivot cell equals a cell. -/
def cellsAt (axes : Axes) (source : Table) (key pivot : Cell) : List Cell :=
  (source.rows.filter fun row =>
    key.same (cellAt axes.key row) && (cellAt axes.pivot row).equals pivot).map (cellAt axes.value)

end Axes

/-- A table is the cross-tabulation of a source over some values, with the names of its columns. -/
structure CrossTabulates (source : Table) (axes : Axes) (values : List Value)
    (names : List String) (result : Table) : Prop where
  names_eq : result.columns.map Column.name = names
  /-- The keys ascend, so no two rows have the same one. -/
  ascending : result.rows.Pairwise fun line next =>
    (line.headD .null).compare (next.headD .null) = .lt
  /-- Every key of the source has a row. -/
  complete : ∀ row ∈ source.rows, ∃ line ∈ result.rows,
    (line.headD .null).same (cellAt axes.key row) = true
  /-- Every row has the key of a row of the source, and behind it the maxima for the values. -/
  lines : ∀ line ∈ result.rows, ∃ row ∈ source.rows, ∃ cells, line = cellAt axes.key row :: cells ∧
    List.Forall₂ (fun cell value =>
      IsMaximum cell (axes.cellsAt source (cellAt axes.key row) value.cell)) cells values
  /-- The values are those of the pivot column, each once. -/
  distinct : values.Pairwise fun value other => value.cell.same other.cell = false
  discovered : ∀ row ∈ source.rows, cellAt axes.pivot row ≠ .null →
    ∃ value ∈ values, (cellAt axes.pivot row).equals value.cell = true
  occurs : ∀ value ∈ values, ∃ row ∈ source.rows, cellAt axes.pivot row = value.cell

/-- The literals of the values stand for them in a source: at every key, the maximum over the rows
whose pivot cell equals what the engine reads a literal as is that for the value itself. -/
def ReadsTrue (source : Table) (axes : Axes) (values : List Value) : Prop :=
  ∀ value ∈ values, ∀ row ∈ source.rows,
    IsMaximum (greatest (axes.cellsAt source (cellAt axes.key row) value.readBack))
      (axes.cellsAt source (cellAt axes.key row) value.cell)

/-- Where every literal is read as its value, the literals stand for the values. -/
theorem readsTrue_of_readBack {source : Table} {axes : Axes} {values : List Value}
    (h : ∀ value ∈ values, value.readBack = value.cell) : ReadsTrue source axes values := by
  intro value hvalue row hrow
  rw [h value hvalue]
  exact isMaximum_greatest _

/-! ### The table of the engine -/

/-- The column of one value, with its names resolved. -/
def pickPlan (source : Table) (axes : Axes) (literal : Cell) (column : String) : PickPlan where
  left := .column axes.pivot
  right := .constant literal
  affinity := source.relation.affinity axes.pivot
  value := .column axes.value
  name := column

/-- The table that the query of a run computes. -/
def crossTable (name : String) (source : Table) (axes : Axes) (literals : List Cell)
    (columns : List String) : Table where
  name := name
  columns := distinctNames [] 1
    (source.columns[axes.key]?.getD (.plain "") :: columns.map fun column => ⟨column, .none⟩)
  rows := pivotRows (.column axes.key) (.column axes.key)
    (List.zipWith (pickPlan source axes) literals columns) source.relation.rows

section

variable {spec : Spec} {source : Table} {axes : Axes} {sql : String}

theorem allColumns_relation (source : Table) : source.relation.allColumns = source.columns :=
  List.append_nil source.columns

theorem named?_of_column? {name : String} {index : Nat}
    (h : source.relation.column? name = some index) :
    Source.named? source.relation name = some (.column index) := by
  unfold Source.named?
  rw [h]

/-- A quoted name of a column is that column. -/
theorem ofOperand_eq {operand : Operand} {name : String} (hoperand : operand.IsQuoted name)
    {index : Nat} (h : source.relation.column? name = some index) :
    Source.ofOperand sql source.relation operand = .ok (.column index) := by
  obtain ⟨found, rfl, rfl⟩ := hoperand
  unfold Source.ofOperand
  simp only [named?_of_column? h, Option.getD_some]

theorem planPicks_eq (haxes : axes.Of spec source) {picks : List Pick} {literals : List Token}
    {columns : List String}
    (h : List.Forall₂ (fun pick entry => Pick.Stands spec pick entry.1 entry.2) picks
      (literals.zip columns)) :
    planPicks sql source.relation picks =
      .ok (List.zipWith (pickPlan source axes) (literals.map literalCell) columns) := by
  induction literals generalizing picks columns with
  | nil =>
    cases h
    rfl
  | cons literal literals ih =>
    rcases columns with _ | ⟨column, columns⟩
    · cases h
      rfl
    rw [List.zip_cons_cons] at h
    rcases h with _ | ⟨hpick, hpicks⟩
    obtain ⟨hleft, hright, hvalue, htitle⟩ := hpick
    unfold planPicks
    rw [ofOperand_eq hleft haxes.pivot, hright, ofOperand_eq hvalue haxes.value, ih hpicks, htitle]
    rfl

theorem groupSource_eq (haxes : axes.Of spec source) (picks : List PickPlan) {group : Operand}
    (hgroup : group.IsQuoted spec.rowKey) :
    groupSource sql source.relation picks group = .ok (.column axes.key) := by
  have hnamed := named?_of_column? haxes.key
  have hoperand : Source.ofOperand sql source.relation group = .ok (.column axes.key) :=
    ofOperand_eq hgroup haxes.key
  obtain ⟨name, rfl, hname⟩ := hgroup
  rw [← hname] at hnamed
  unfold groupSource
  simp only [Operand.name?, Option.any_some, hnamed, Option.isNone_some, Bool.false_and]
  exact hoperand

/-- The key column is there, and has the name of the spec but for its case. -/
theorem exists_keyColumn (haxes : axes.Of spec source) :
    ∃ column, source.columns[axes.key]? = some column ∧
      Text.sameButCase column.name spec.rowKey = true := by
  have hfound := haxes.key
  rw [Relation.column?, allColumns_relation, List.findIdx?_eq_some_iff_getElem] at hfound
  obtain ⟨hlt, hname, -⟩ := hfound
  exact ⟨source.columns[axes.key], List.getElem?_eq_getElem hlt, hname⟩

/-- A query of a run computes the table of its literals. -/
theorem pivotTable_eq (haxes : axes.Of spec source) {query : PivotQuery} {literals : List Token}
    {columns : List String} (hasks : query.Asks spec literals columns)
    (hlength : columns.length = literals.length) {name : String} {table : Table}
    (h : pivotTable sql name query source.relation = .ok table) :
    table = crossTable name source axes (literals.map literalCell) columns := by
  obtain ⟨keyColumn, hcolumn, -⟩ := exists_keyColumn haxes
  have hkey : resultColumn source.relation query.key (.column axes.key) =
      source.columns[axes.key]?.getD (.plain "") := by
    rw [resultColumn, allColumns_relation, hcolumn]
    rfl
  have hnames : (List.zipWith (pickPlan source axes) (literals.map literalCell) columns).map
      (fun pick => (⟨pick.name, .none⟩ : Column)) = columns.map fun column => ⟨column, .none⟩ := by
    apply List.ext_getElem
    · simp [hlength]
    · simp [pickPlan]
  unfold pivotTable at h
  split at h
  · cases h
  simp only [ofOperand_eq hasks.key haxes.key, planPicks_eq haxes hasks.picks,
    groupSource_eq haxes _ hasks.group, bind, Except.bind, pure, Except.pure, Except.ok.injEq] at h
  rw [← h, hkey, hnames, crossTable]

end

/-! ### What the engine computes -/

section

variable {source : Table} {axes : Axes}

theorem map_cells_numbered (rows : List (List Cell)) : (numbered rows).map Row.cells = rows := by
  rw [numbered, List.map_map]
  exact List.zipIdx_map_fst 0 rows

theorem cells_mem_of_mem {rows : List (List Cell)} {row : Row} (h : row ∈ numbered rows) :
    row.cells ∈ rows := by
  rw [← map_cells_numbered rows]
  exact List.mem_map_of_mem h

/-- What is filtered and taken by cells alone does not depend on the numbers of rows. -/
theorem map_filter_numbered (rows : List (List Cell)) (p : List Cell → Bool)
    (f : List Cell → Cell) :
    ((numbered rows).filter fun row => p row.cells).map (fun row => f row.cells) =
      (rows.filter p).map f := by
  have hrows := map_cells_numbered rows
  calc ((numbered rows).filter fun row => p row.cells).map (fun row => f row.cells)
      = (((numbered rows).map Row.cells).filter p).map f := by
        rw [List.filter_map, List.map_map]
        rfl
    _ = (rows.filter p).map f := by rw [hrows]

/-- The cells of the pivot column are such as the column can hold. -/
def PivotHolds (source : Table) (axes : Axes) : Prop :=
  ∀ row ∈ source.rows, (source.relation.affinity axes.pivot).Holds (cellAt axes.pivot row)

/-- The maximum of a picked column is that over the rows whose pivot cell equals its literal. -/
theorem maximum_pickPlan (hholds : PivotHolds source axes) {literal : Cell}
    (hliteral : (source.relation.affinity axes.pivot).Holds literal) (column : String)
    (key : Cell) :
    (pickPlan source axes literal column).maximum
        (membersOf (.column axes.key) source.relation.rows key) =
      greatest (axes.cellsAt source key literal) := by
  -- between cells that the column can hold, the affinity of the comparison changes nothing
  have hequates : (membersOf (.column axes.key) source.relation.rows key).filter (fun row =>
      (source.relation.affinity axes.pivot).equates (cellAt axes.pivot row.cells) literal) =
      source.relation.rows.filter fun row => key.same (cellAt axes.key row.cells) &&
        (cellAt axes.pivot row.cells).equals literal := by
    rw [membersOf, List.filter_filter]
    refine List.filter_congr fun row hrow => ?_
    rw [Affinity.equates_of_holds (hholds _ (cells_mem_of_mem hrow)) hliteral, Bool.and_comm]
    rfl
  have hcells := map_filter_numbered source.rows
    (fun row => key.same (cellAt axes.key row) && (cellAt axes.pivot row).equals literal)
    (cellAt axes.value)
  calc (pickPlan source axes literal column).maximum
        (membersOf (.column axes.key) source.relation.rows key)
      = greatest (((membersOf (.column axes.key) source.relation.rows key).filter fun row =>
          (source.relation.affinity axes.pivot).equates (cellAt axes.pivot row.cells) literal).map
            fun row => cellAt axes.value row.cells) := greatest_ifs _ _ _
    _ = greatest (axes.cellsAt source key literal) := by
        rw [hequates]
        exact congrArg greatest hcells

/-- Cells at keys with the same place are the same. -/
theorem cellsAt_congr {key other : Cell} (h : key.same other = true) (pivot : Cell) :
    axes.cellsAt source key pivot = axes.cellsAt source other pivot := by
  unfold Axes.cellsAt
  simp only [Cell.same_congr h]

variable {values : List Value} {columns : List String}

/-- The rows of the table of a run. -/
theorem line_eq (hholds : PivotHolds source axes)
    (hliterals : ∀ value ∈ values, (source.relation.affinity axes.pivot).Holds value.readBack)
    (hlength : columns.length = values.length) {name : String} {line : List Cell}
    (h : line ∈ (crossTable name source axes (values.map Value.readBack) columns).rows) :
    ∃ row ∈ source.rows, line = cellAt axes.key row :: values.map fun value =>
      greatest (axes.cellsAt source (cellAt axes.key row) value.readBack) := by
  obtain ⟨hkey, hline⟩ := isGroup_of_mem h
  obtain ⟨row, hrow, hhead⟩ := List.mem_map.1 hkey
  refine ⟨row.cells, cells_mem_of_mem hrow, ?_⟩
  have hcell : cellAt axes.key row.cells = line.headD .null := hhead
  rw [hcell]
  refine hline.trans (congrArg _ ?_)
  apply List.ext_getElem
  · simp [hlength]
  · intro i hleft hright
    have hvalue : i < values.length := by simpa using hright
    simp only [List.getElem_map, List.getElem_zipWith]
    exact maximum_pickPlan hholds (hliterals _ (List.getElem_mem hvalue)) _ _

theorem names_crossTable_iff
    (hnames : (axes.keyName source :: columns).Pairwise fun name other =>
      Text.sameButCase name other = false) (name : String) (literals : List Cell) :
    (crossTable name source axes literals columns).columns.map Column.name =
        axes.keyName source :: columns ↔
      ∀ name ∈ axes.keyName source :: columns, namesTruth name = false := by
  have hcolumns : (source.columns[axes.key]?.getD (.plain "") ::
      columns.map fun column => (⟨column, .none⟩ : Column)).map Column.name =
      axes.keyName source :: columns := by
    have hkey : (source.columns[axes.key]?.getD (.plain "")).name = axes.keyName source := by
      unfold Axes.keyName
      cases source.columns[axes.key]? <;> rfl
    rw [List.map_cons, hkey, List.map_map]
    exact congrArg _ (List.map_id columns)
  have hfree : ∀ other ∈ ([] : List String), ∀ column ∈ source.columns[axes.key]?.getD (.plain "") ::
      columns.map fun column => (⟨column, .none⟩ : Column),
      Text.sameButCase other column.name = false := fun _ h => nomatch h
  have hkept := map_name_distinctNames (by rw [hcolumns]; exact hnames) hfree 1
  rw [hcolumns] at hkept
  rw [crossTable, hkept, ← hcolumns, List.forall_mem_map]

/-- The table of a run is the cross-tabulation exactly if no name is a word for truth and the
literals stand for the values. -/
theorem crossTabulates_iff (hholds : PivotHolds source axes)
    (hliterals : ∀ value ∈ values, (source.relation.affinity axes.pivot).Holds value.readBack)
    (hlength : columns.length = values.length)
    (hnames : (axes.keyName source :: columns).Pairwise fun name other =>
      Text.sameButCase name other = false)
    (hdistinct : values.Pairwise fun value other => value.cell.same other.cell = false)
    (hdiscovered : ∀ row ∈ source.rows, cellAt axes.pivot row ≠ .null →
      ∃ value ∈ values, (cellAt axes.pivot row).equals value.cell = true)
    (hoccurs : ∀ value ∈ values, ∃ row ∈ source.rows, cellAt axes.pivot row = value.cell)
    (name : String) :
    CrossTabulates source axes values (axes.keyName source :: columns)
        (crossTable name source axes (values.map Value.readBack) columns) ↔
      (∀ name ∈ axes.keyName source :: columns, namesTruth name = false) ∧
        ReadsTrue source axes values := by
  constructor
  · intro h
    refine ⟨(names_crossTable_iff hnames name _).1 h.names_eq, fun value hvalue row hrow => ?_⟩
    -- both the result and the computed table have one row for the key, and its cells tell the maxima
    obtain ⟨line, hline, hsame⟩ := h.complete row hrow
    obtain ⟨member, -, cells, rfl, hmaxima⟩ := h.lines line hline
    obtain ⟨other, -, hcells⟩ := line_eq hholds hliterals hlength hline
    obtain ⟨hkey, rfl⟩ := List.cons.inj hcells
    rw [List.forall₂_map_left_iff, List.forall₂_same] at hmaxima
    have hmaximum := hmaxima value hvalue
    have hmember : (cellAt axes.key member).same (cellAt axes.key row) = true := hsame
    rwa [← hkey, cellsAt_congr hmember, cellsAt_congr hmember] at hmaximum
  · rintro ⟨htruth, hreads⟩
    refine ⟨(names_crossTable_iff hnames name _).2 htruth, pairwise_pivotRows, ?_, ?_, hdistinct,
      hdiscovered, hoccurs⟩
    · intro cells hcells
      obtain ⟨row, hrow, rfl⟩ : ∃ row ∈ source.relation.rows, row.cells = cells := by
        rw [← map_cells_numbered source.rows] at hcells
        exact List.mem_map.1 hcells
      exact exists_line hrow
    · intro line hline
      obtain ⟨row, hrow, hcells⟩ := line_eq hholds hliterals hlength hline
      refine ⟨row, hrow, _, hcells, ?_⟩
      rw [List.forall₂_map_left_iff, List.forall₂_same]
      exact fun value hvalue => hreads value hvalue row hrow

end

end Crosstab.Engine

import Crosstab.Proofs.Engine.Creation
import Crosstab.Proofs.Engine.FreeNames
import Crosstab.Proofs.Engine.Lookup

/-!
# Names in a source

Which names a source knows depends on what it is, and not on the state in which it is read: the
names of its columns, and the three names of the number of a row. Every other name in quotes is
read as the text that it spells.
-/

namespace Crosstab.Engine

open Sql (Token)

/-! ### Columns of what is found -/

/-- The columns of what a name stands for, those that are not shown behind the others. -/
def Found.columns : Found → List Column
  | .stored _ table => table.columns
  | .schemaTable _ => schemaTableColumns
  | .builtin _ table => table.columns ++ table.hidden

/-- What a name stands for in a source: a column or the number of the row. -/
def Found.named? (found : Found) (name : String) : Option Source :=
  Source.named? { columns := found.columns, rows := [] } name

theorem columns_relation (catalog : Catalog) (creating : Bool) (found : Found) :
    (found.relation catalog creating).allColumns = found.columns := by
  cases found with
  | stored schema table => exact List.append_nil table.columns
  | schemaTable schema =>
    unfold Found.relation
    dsimp only
    split <;> exact List.append_nil schemaTableColumns
  | builtin shown builtin => rfl

theorem columns_anonymous (found : Found) : found.anonymous.columns = found.columns := by
  cases found <;> rfl

/-- A relation has the columns of what has been found. -/
def Relation.IsOf (relation : Relation) (found : Found) : Prop :=
  relation.allColumns = found.columns

theorem Relation.IsOf.named?_eq {relation : Relation} {found : Found} (h : relation.IsOf found)
    (name : String) : Source.named? relation name = found.named? name := by
  have hcolumns : ({ columns := found.columns, rows := [] } : Relation).allColumns =
      found.columns := List.append_nil found.columns
  unfold Found.named? Source.named? Relation.column?
  rw [h, hcolumns]

/-- What is read where the tables are the same is of what has been found. -/
theorem exists_isOf {catalog after : Catalog} (hsame : SameTables catalog after)
    {written : TableName} {name : String} (hrefers : written.Refers name) {creating : Bool}
    {relation : Relation} (h : findSource after creating written = .ok relation) :
    ∃ found, catalog.found? name = some found ∧ relation.IsOf found := by
  rw [findSource_eq hrefers] at h
  rcases hafter : after.found? name with _ | other
  · rw [hafter] at h
    cases h
  · rw [hafter] at h
    cases h
    obtain ⟨found, hfound, hanonymous⟩ :=
      exists_found_of_anonymous (anonymous_found? hsame.tableIn?_eq) hafter
    refine ⟨found, hfound, (columns_relation after creating other).trans ?_⟩
    rw [← columns_anonymous found, hanonymous, columns_anonymous]

/-! ### Tables of a run -/

/-- What a name in quotes is read as in a relation: what it stands for, or else its text. -/
def Source.reads (relation : Relation) (name : String) : Source :=
  (Source.named? relation name).getD (.constant (.ofText name))

theorem reads_of_named? {relation : Relation} {name : String} {source : Source}
    (h : Source.named? relation name = some source) : Source.reads relation name = source := by
  rw [Source.reads, h, Option.getD_some]

theorem reads_of_unknown {relation : Relation} {name : String}
    (h : Source.named? relation name = none) :
    Source.reads relation name = .constant (.ofText name) := by
  rw [Source.reads, h, Option.getD_none]

/-- A name that is a column has one among the columns, called alike. -/
theorem exists_column_of_named? {relation : Relation} {name : String} {index : Nat}
    (h : Source.named? relation name = some (.column index)) :
    ∃ column, relation.allColumns[index]? = some column ∧
      Text.sameButCase column.name name = true := by
  have hcolumn : relation.column? name = some index := by
    unfold Source.named? at h
    split at h
    · next found hfound =>
      cases h
      exact hfound
    · split at h <;> cases h
  obtain ⟨hlt, hname, -⟩ := List.findIdx?_eq_some_iff_getElem.1 hcolumn
  exact ⟨relation.allColumns[index], List.getElem?_eq_getElem hlt, hname⟩

section

variable {spec : Spec} {relation : Relation} {sql : String}

theorem ofOperand_quoted {operand : Operand} {name : String} (h : operand.IsQuoted name) :
    Source.ofOperand sql relation operand = .ok (Source.reads relation name) := by
  obtain ⟨found, rfl, rfl⟩ := h
  rfl

/-- The column of one value, with its names read in a relation. -/
def readPlan (relation : Relation) (spec : Spec) (literal : Cell) (column : String) : PickPlan where
  left := Source.reads relation spec.pivot
  right := .constant literal
  affinity := Affinity.ofSides ((Source.reads relation spec.pivot).affinity? relation) none
  value := Source.reads relation spec.value
  name := column

/-- The table that the query of a run computes from a relation; its key column is given. -/
def readTable (name : String) (spec : Spec) (relation : Relation) (key : Column)
    (literals : List Cell) (columns : List String) : Table where
  name := name
  columns := distinctNames [] 1 (key :: columns.map fun column => ⟨column, .none⟩)
  rows := pivotRows (Source.reads relation spec.rowKey) (Source.reads relation spec.rowKey)
    (List.zipWith (readPlan relation spec) literals columns) relation.rows

theorem planPicks_quoted {picks : List Pick} {literals : List Token} {columns : List String}
    (h : List.Forall₂ (fun pick entry => Pick.Stands spec pick entry.1 entry.2) picks
      (literals.zip columns)) :
    planPicks sql relation picks =
      .ok (List.zipWith (readPlan relation spec) (literals.map literalCell) columns) := by
  induction literals generalizing picks columns with
  | nil =>
    cases h
    rfl
  | cons literal literals ih =>
    rcases columns with _ | ⟨column, columns⟩
    · cases h
      rfl
    rw [List.zip_cons_cons] at h
    rcases h with _ | ⟨hpick, hpicks⟩
    obtain ⟨hleft, hright, hvalue, htitle⟩ := hpick
    unfold planPicks
    rw [ofOperand_quoted hleft, hright, ofOperand_quoted hvalue, ih hpicks, htitle]
    rfl

theorem groupSource_quoted (picks : List PickPlan) {group : Operand} {name : String}
    (h : group.IsQuoted name) :
    groupSource sql relation picks group = .error .aggregateGroup ∨
      groupSource sql relation picks group = .ok (Source.reads relation name) := by
  unfold groupSource
  dsimp only
  split
  · exact .inl rfl
  · exact .inr (ofOperand_quoted h)

/-- The query of a run computes a table from what its names are read as. The names are no reason
for it to fail, but for a key that is no column and is called like a column that is picked. -/
theorem pivotTable_quoted {query : PivotQuery} {literals : List Token} {columns : List String}
    (hasks : query.Asks spec literals columns) (hlength : columns.length = literals.length)
    (sql name : String) (relation : Relation) :
    pivotTable sql name query relation = .error .tooManyColumns ∨
      pivotTable sql name query relation = .error .aggregateGroup ∨
      pivotTable sql name query relation = .ok (readTable name spec relation
        (resultColumn relation query.key (Source.reads relation spec.rowKey))
        (literals.map literalCell) columns) := by
  have hnames : (List.zipWith (readPlan relation spec) (literals.map literalCell) columns).map
      (fun pick => (⟨pick.name, .none⟩ : Column)) = columns.map fun column => ⟨column, .none⟩ := by
    apply List.ext_getElem
    · simp [hlength]
    · simp [readPlan]
  unfold pivotTable
  split
  · exact .inl rfl
  right
  simp only [ofOperand_quoted hasks.key, planPicks_quoted hasks.picks, bind, Except.bind]
  rcases groupSource_quoted (List.zipWith (readPlan relation spec) (literals.map literalCell)
    columns) hasks.group with hgroup | hgroup
  · rw [hgroup]
    exact .inl rfl
  · rw [hgroup, readTable, ← hnames]
    exact .inr rfl

end

/-! ### Names that are read as texts -/

section

variable {relation : Relation} {cell : Cell}

theorem distinctCells_constant {rows : List Row} :
    distinctCells (rows.map (Source.constant cell).cell) = if rows = [] then [] else [cell] := by
  induction rows with
  | nil => rfl
  | cons row rows ih =>
    rw [List.map_cons, distinctCells, ih, if_neg (List.cons_ne_nil row rows)]
    show cell :: _ = [cell]
    split
    · rfl
    · simp [Source.cell, Cell.same_refl]

/-- A constant is its only cell, if there is a row. -/
theorem distinctColumn_constant : distinctColumn relation (.constant cell) =
    if relation.rows = [] then [] else [cell] := by
  have hcells : distinctColumn relation (.constant cell) =
      distinctCells (relation.rows.map (Source.constant cell).cell) := by
    unfold distinctColumn
    cases relation.ordered <;> rfl
  rw [hcells, distinctCells_constant]

variable {spec : Spec} {name : String} {key : Column} {literals : List Cell} {columns : List String}

/-- All rows are one group of a key that is a constant. -/
theorem rows_of_unknown_key (h : Source.named? relation spec.rowKey = none) :
    (readTable name spec relation key literals columns).rows.length ≤ 1 ∧
      ∀ line ∈ (readTable name spec relation key literals columns).rows,
        line.headD .null = .ofText spec.rowKey := by
  have hheads : ∀ line ∈ (readTable name spec relation key literals columns).rows,
      line.headD .null = .ofText spec.rowKey := by
    intro line hline
    obtain ⟨row, -, hrow⟩ := List.mem_map.1 (isGroup_of_mem hline).key_mem
    rw [← hrow, reads_of_unknown h]
    rfl
  refine ⟨?_, hheads⟩
  have hascending : (readTable name spec relation key literals columns).rows.Pairwise
      fun line next => (line.headD .null).compare (next.headD .null) = .lt := pairwise_pivotRows
  match hrows : (readTable name spec relation key literals columns).rows with
  | [] => exact Nat.zero_le 1
  | [line] => exact Nat.le_refl 1
  | line :: next :: rest =>
    -- two rows would have the same key, but keys ascend
    rw [hrows] at hascending hheads
    have hless := (List.pairwise_cons.1 hascending).1 next List.mem_cons_self
    rw [hheads line (by simp), hheads next (by simp)] at hless
    have hsame := Cell.same_iff.1 (Cell.same_refl (.ofText spec.rowKey))
    rw [hsame] at hless
    cases hless

/-- A value that is a constant is all that is ever picked. -/
theorem cells_of_unknown_value (h : Source.named? relation spec.value = none) :
    ∀ line ∈ (readTable name spec relation key literals columns).rows, ∀ cell ∈ line.tail,
      cell = .null ∨ cell = .ofText spec.value := by
  intro line hline cell hcell
  rw [(isGroup_of_mem hline).line_eq, List.tail_cons] at hcell
  obtain ⟨pick, hpick, rfl⟩ := List.mem_map.1 hcell
  obtain ⟨literal, column, rfl⟩ : ∃ literal column, pick = readPlan relation spec literal column := by
    rw [← List.map_uncurry_zip_eq_zipWith] at hpick
    obtain ⟨⟨literal, column⟩, -, rfl⟩ := List.mem_map.1 hpick
    exact ⟨literal, column, rfl⟩
  rcases (isMaximum_greatest _).null_or_mem with hnull | hmem
  · exact .inl hnull
  · obtain ⟨row, -, hrow⟩ := List.mem_map.1 hmem
    unfold PickPlan.maximum
    rw [← hrow, PickPlan.cell]
    split
    · right
      rw [readPlan, reads_of_unknown h]
      rfl
    · exact .inl rfl

end

end Crosstab.Engine

import Crosstab.Engine.Resolution
import Crosstab.Proofs.Engine.PivotTable

/-!
# Sound relations

A relation is sound if each of its columns holds only what its affinity lets it hold. All that a
query can read is so: created tables by the way cells are stored, and the tables of the engine by
the way their rows are made.
-/

namespace Crosstab.Engine

/-- Every column holds what it can hold. -/
def Relation.IsSound (relation : Relation) : Prop :=
  ∀ row ∈ relation.rows, ∀ index, (relation.affinity index).Holds (cellAt index row.cells)

/-- Every column of a table holds what it can hold. -/
def Table.IsSound (table : Table) : Prop :=
  ∀ row ∈ table.rows, ∀ index, (table.relation.affinity index).Holds (cellAt index row)

theorem Table.IsSound.relation {table : Table} (h : table.IsSound) : table.relation.IsSound :=
  fun _ hrow => h _ (cells_mem_of_mem hrow)

/-! ### Rows and columns -/

section

variable {relation : Relation}

theorem affinity_of_getElem? {index : Nat} {column : Column}
    (h : relation.allColumns[index]? = some column) :
    relation.affinity index = column.affinity := by
  rw [Relation.affinity, h]

theorem affinity_of_none {index : Nat} (h : relation.allColumns[index]? = none) :
    relation.affinity index = .none := by
  rw [Relation.affinity, h]

theorem affinity_eq_getD (relation : Relation) (index : Nat) :
    relation.affinity index = (relation.allColumns.map Column.affinity)[index]?.getD .none := by
  rw [Relation.affinity, List.getElem?_map]
  cases relation.allColumns[index]? <;> rfl

theorem cellAt_of_length_le {index : Nat} {cells : List Cell} (h : cells.length ≤ index) :
    cellAt index cells = .null := by
  rw [cellAt, List.getElem?_eq_none h]
  rfl

/-- A row that matches the columns one by one. -/
theorem holds_of_forall₂ {cells : List Cell}
    (h : List.Forall₂ (fun column cell => Affinity.Holds column.affinity cell)
      relation.allColumns cells) (index : Nat) :
    (relation.affinity index).Holds (cellAt index cells) := by
  rcases hcolumn : relation.allColumns[index]? with _ | column
  · rw [affinity_of_none hcolumn]
    exact trivial
  · obtain ⟨hlt, rfl⟩ := List.getElem?_eq_some_iff.1 hcolumn
    have hcells : index < cells.length := h.length_eq ▸ hlt
    rw [affinity_of_getElem? hcolumn, cellAt, List.getElem?_eq_getElem hcells]
    exact h.get hlt hcells

/-- Columns without a type hold everything, and columns behind the cells of a row hold NULL. -/
theorem isSound_of_plain (hplain : ∀ column ∈ relation.columns, column.affinity = .none)
    (hshort : relation.hidden = [] ∨
      ∀ row ∈ relation.rows, row.cells.length ≤ relation.columns.length) : relation.IsSound := by
  intro row hrow index
  by_cases hindex : index < relation.columns.length
  · have hcolumn : relation.allColumns[index]? = some relation.columns[index] := by
      rw [Relation.allColumns, List.getElem?_append_left hindex, List.getElem?_eq_getElem hindex]
    rw [affinity_of_getElem? hcolumn, hplain _ (List.getElem_mem hindex)]
    exact trivial
  · rcases hshort with hhidden | hshort
    · have hcolumn : relation.allColumns[index]? = none := by
        rw [Relation.allColumns, hhidden, List.append_nil]
        exact List.getElem?_eq_none (Nat.not_lt.1 hindex)
      rw [affinity_of_none hcolumn]
      exact trivial
    · rw [cellAt_of_length_le (Nat.le_trans (hshort row hrow) (Nat.not_lt.1 hindex))]
      exact Affinity.holds_null _

end

/-! ### Schema tables -/

theorem isSound_schemaTable (catalog : Catalog) (schema : Schema) :
    (catalog.schemaTable schema).IsSound := by
  intro row hrow
  obtain ⟨entry, -, rfl⟩ := List.mem_map.1 hrow
  apply holds_of_forall₂
  exact .cons rfl (.cons rfl (.cons rfl (.cons rfl (.cons rfl .nil))))

theorem isSound_growingSchemaTable (catalog : Catalog) (schema : Schema) :
    (catalog.growingSchemaTable schema).IsSound := by
  intro row hrow index
  rcases List.mem_append.1 hrow with hrow | hrow
  · exact isSound_schemaTable catalog schema row hrow index
  · obtain rfl := List.mem_singleton.1 hrow
    -- the row of the table that is being created is not filled yet
    have hnull : cellAt index (schemaTableColumns.map fun _ => Cell.null) = .null := by
      rw [cellAt, List.getElem?_map]
      cases schemaTableColumns[index]? <;> rfl
    rw [hnull]
    exact Affinity.holds_null _

/-! ### Built-in tables -/

theorem exists_statisticsRow {row : Row} {table : String} {before : Nat}
    {summaries : List Storage.PageSummary} (h : row ∈ statisticsRows table before summaries) :
    ∃ summary place, row = statisticsRow table summary place := by
  induction summaries generalizing before with
  | nil => cases h
  | cons summary summaries ih =>
    rcases List.mem_cons.1 h with rfl | hrest
    · exact ⟨_, _, rfl⟩
    · exact ih hrest

theorem isSound_statistics {relation : Relation} (catalog : Catalog)
    (hcolumns : relation.allColumns = statisticsColumns ++ statisticsHidden)
    (hrows : relation.rows = catalog.statistics) : relation.IsSound := by
  intro row hrow
  rw [hrows] at hrow
  unfold Catalog.statistics at hrow
  split at hrow
  · cases hrow
  · obtain ⟨⟨name, tree⟩, -, hmem⟩ := List.mem_flatMap.1 hrow
    obtain ⟨summary, place, rfl⟩ := exists_statisticsRow hmem
    apply holds_of_forall₂
    rw [hcolumns]
    exact .cons rfl (.cons rfl (.cons rfl (.cons rfl (.cons rfl (.cons rfl (.cons rfl (.cons rfl
      (.cons rfl (.cons rfl (.cons rfl (.cons rfl .nil)))))))))))

namespace Builtin

/-- A built-in table whose columns have no types, but for the hidden ones, which its rows do not
reach. -/
structure IsPlain (builtin : Builtin) : Prop where
  plain : ∀ column ∈ builtin.columns, column.affinity = .none
  nonempty : 1 ≤ builtin.columns.length
  short : builtin.hidden = [] ∨
    ∀ catalog, ∀ row ∈ builtin.rows catalog, row.cells.length ≤ builtin.columns.length

theorem IsPlain.relation {builtin : Builtin} (h : builtin.IsPlain) (catalog : Catalog)
    (creating : Bool) : (builtin.relation catalog creating).IsSound := by
  refine isSound_of_plain h.plain (h.short.imp_right fun hshort row hrow => ?_)
  have hrows : row ∈ if creating && builtin.isCheck then checkCreating catalog
      else builtin.rows catalog := hrow
  split at hrows
  · rw [List.mem_singleton.1 (cells_mem_of_mem hrows)]
    exact h.nonempty
  · exact hshort catalog row hrows

theorem isPlain_ofConnection {name : String} {columns arguments : List String}
    {rows : Catalog → List (List Cell)} (hcolumns : 1 ≤ columns.length)
    (hshort : arguments = [] ∨
      ∀ catalog, ∀ cells ∈ rows catalog, cells.length ≤ columns.length) :
    (ofConnection name columns arguments rows).IsPlain := by
  refine ⟨fun column hcolumn => ?_, by simpa [ofConnection] using hcolumns, ?_⟩
  · obtain ⟨_, -, rfl⟩ := List.mem_map.1 hcolumn
    rfl
  · refine hshort.imp (fun hnone => ?_) fun hshort catalog row hrow => ?_
    · rw [hnone]
      rfl
    · simpa [ofConnection] using hshort catalog row.cells (cells_mem_of_mem hrow)

theorem isPlain_ofSetting (arguments : List String) (setting : String × String × Cell) :
    (ofSetting arguments setting).IsPlain := by
  refine isPlain_ofConnection (Nat.le_refl _) (.inr fun _ cells hcells => ?_)
  rw [List.mem_singleton.1 hcells]
  exact Nat.le_refl _

theorem isPlain_ofArgument (name : String) {columns : List String} (h : 1 ≤ columns.length) :
    (ofArgument name columns).IsPlain :=
  isPlain_ofConnection h (.inr fun _ _ hcells => nomatch hcells)

theorem isPlain_changing : ∀ builtin ∈ changing, builtin.IsPlain := by
  unfold changing
  simp only [List.forall_mem_cons, List.not_mem_nil, false_imp_iff, implies_true, and_true]
  refine ⟨?_, ?_, ?_, ?_, ?_, ?_, ?_⟩
  · exact isPlain_ofConnection (by decide) (.inl rfl)
  · exact isPlain_ofConnection (by decide) (.inl rfl)
  · exact isPlain_ofConnection (by decide) (.inr fun _ cells hcells => by
      rw [List.mem_singleton.1 hcells]
      exact Nat.le_refl _)
  · exact isPlain_ofConnection (by decide) (.inl rfl)
  · exact isPlain_ofConnection (by decide) (.inr fun _ cells hcells => by
      rw [List.mem_singleton.1 hcells]
      exact Nat.le_refl _)
  · exact isPlain_ofConnection (by decide) (.inl rfl)
  · refine isPlain_ofConnection (by decide) (.inr fun catalog cells hcells => ?_)
    have htables (schema : Schema) : cells ∈ tableRows catalog schema → cells.length ≤ 6 := by
      intro hmem
      obtain ⟨name, -, rfl⟩ := List.mem_map.1 hmem
      exact Nat.le_refl _
    exact (List.mem_append.1 hcells).elim (htables .main) (htables .temp)

theorem isPlain_checks : ∀ builtin ∈ checks, builtin.IsPlain := by
  refine List.forall_mem_map.2 fun name _ => ?_
  exact isPlain_ofConnection (Nat.le_refl _) (.inr fun _ cells hcells => by
    rw [List.mem_singleton.1 hcells]
    exact Nat.le_refl _)

theorem isPlain_inventory : ∀ builtin ∈ inventory, builtin.IsPlain := by
  unfold inventory ofNames
  simp only [List.forall_mem_cons, List.not_mem_nil, false_imp_iff, implies_true, and_true]
  refine ⟨?_, ?_, ?_⟩ <;> exact isPlain_ofConnection (by decide) (.inl rfl)

/-- All built-in tables are plain but for the statistics, whose rows match their columns. -/
theorem isSound_relation : ∀ builtin ∈ all, ∀ catalog creating,
    (builtin.relation catalog creating).IsSound := by
  have hplain {builtins : List Builtin} (h : ∀ builtin ∈ builtins, builtin.IsPlain) :
      ∀ builtin ∈ builtins, ∀ catalog creating, (builtin.relation catalog creating).IsSound :=
    fun builtin hmem => (h builtin hmem).relation
  have hempty {builtin : Builtin} (hcolumns : ∃ names : List String, 1 ≤ names.length ∧
      builtin.columns = names.map Column.plain) (hrows : builtin.rows = fun _ => []) :
      builtin.IsPlain := by
    obtain ⟨names, hlength, hnames⟩ := hcolumns
    refine ⟨fun column hcolumn => ?_, by simpa [hnames] using hlength, .inr ?_⟩
    · rw [hnames] at hcolumn
      obtain ⟨_, -, rfl⟩ := List.mem_map.1 hcolumn
      rfl
    · rw [hrows]
      exact fun _ _ hrow => nomatch hrow
  -- the families of built-in tables, in the order in which they are listed
  unfold all
  simp only [List.forall_mem_append]
  refine ⟨⟨⟨⟨⟨⟨?_, ?_⟩, ?_⟩, ?_⟩, ?_⟩, ?_⟩, ?_⟩
  · unfold ofModules
    simp only [List.forall_mem_append, List.forall_mem_map, List.forall_mem_cons, List.not_mem_nil,
      false_imp_iff, implies_true, and_true]
    refine ⟨⟨?_, ?_⟩, ?_, fun catalog creating => ?_⟩
    · exact (hempty ⟨_, by decide, rfl⟩ rfl).relation
    · exact (hempty ⟨_, by decide, rfl⟩ rfl).relation
    · exact (hempty ⟨_, by decide, rfl⟩ rfl).relation
    · have hcheck : (creating && isCheck ⟨"dbstat", statisticsColumns, statisticsHidden,
          Catalog.statistics, none, false, some 0⟩) = false := by
        cases creating <;> decide
      refine isSound_statistics catalog rfl ?_
      unfold Builtin.relation
      rw [hcheck]
      rfl
  · refine hplain ?_
    simp only [List.forall_mem_cons, List.not_mem_nil, false_imp_iff, implies_true, and_true]
    refine ⟨isPlain_ofConnection (by decide) (.inl rfl), hempty ⟨["optimize"], by decide, rfl⟩ rfl,
      ?_, ?_, ?_, ?_, ?_, ?_, ?_⟩ <;> exact isPlain_ofArgument _ (by decide)
  · exact hplain (List.forall_mem_map.2 fun setting _ => isPlain_ofSetting _ setting)
  · exact hplain (List.forall_mem_map.2 fun setting _ => isPlain_ofSetting _ setting)
  · exact hplain isPlain_changing
  · exact hplain isPlain_checks
  · exact hplain isPlain_inventory

end Builtin

end Crosstab.Engine

import Crosstab.Proofs.Run.Creation
import Crosstab.Proofs.Run.CrossTabulation

/-!
# The columns of a run

No name of a built statement is taken twice, but the names are compared letter by letter. Engines
compare them without case, or fold those that are written bare, and where two names are one to it,
an engine calls the second of them otherwise:

    names of the statement ──distinct──▶ asked of the engine ──distinctNames──▶ names of the table

So the table has the names that the report lists exactly if no two of them, or one of them and the
key, differ in case alone, and none is a word for truth.
-/

namespace Crosstab

open Engine

/-! ### Names as engines compare them -/

/-- The form to which a bare name is folded. -/
def lowerCase (name : String) : List Char := name.toList.map Char.toLower

/-- No two of the names differ in case alone. -/
def DifferInMore (names : List String) : Prop :=
  ∀ name ∈ names, ∀ other ∈ names, Text.sameButCase name other = true → name = other

theorem pairwise_differ_iff {names : List String} (h : names.Nodup) :
    names.Pairwise Differ ↔ DifferInMore names := by
  have hmap : names.Pairwise Differ ↔ (names.map upperCase).Nodup := by
    rw [List.Nodup, List.pairwise_map]
    exact List.Pairwise.iff fun _ _ => differ_iff
  rw [hmap, List.nodup_map_iff_inj_on h]
  simp only [DifferInMore, sameButCase_iff]

theorem nodup_folded_iff {key : String} {columns : List String} (h : columns.Nodup) :
    (key.toList :: columns.map lowerCase).Nodup ↔
      (∀ column ∈ columns, lowerCase column ≠ key.toList) ∧
        ∀ column ∈ columns, ∀ other ∈ columns, lowerCase column = lowerCase other →
          column = other := by
  rw [List.nodup_cons, List.nodup_map_iff_inj_on h]
  simp [List.mem_map]

theorem nodup_of_build {spec : Spec} {dialect : Sql.Dialect} {naming : Sql.ColumnNaming}
    {values : ValueSet} {statement : Sql.Statement}
    (h : Sql.build spec dialect naming values = .ok statement) :
    (spec.rowKey :: statement.columns).Nodup := by
  have hclaimed := Sql.claimed_of_build h
  rw [List.nodup_cons]
  exact ⟨fun hkey => hclaimed.not_mem hkey (List.mem_singleton_self _), hclaimed.nodup⟩

theorem differ_congr {name other third : String} (h : Text.sameButCase name other = true) :
    Differ name third ↔ Differ other third := by
  rw [differ_iff, differ_iff, sameButCase_iff.1 h]

theorem namesTruth_congr {name other : String} (h : Text.sameButCase name other = true) :
    namesTruth name = namesTruth other := by
  have hword (word : String) : Text.sameButCase word name = Text.sameButCase word other := by
    rw [Bool.eq_iff_iff, sameButCase_iff, sameButCase_iff, sameButCase_iff.1 h]
  simp only [namesTruth, hword]

/-! ### Created names -/

/-- What is to hold of the names of a created table, with the columns that are reported. -/
structure NamesColumns (spec : Spec) (found : Found) (columns : List String) (table : Table) :
    Prop where
  /-- The engine sees to it that the names differ. -/
  differ : (table.columns.map Column.name).Pairwise Differ
  length_eq : table.columns.length = columns.length + 1
  /-- Behind the key, whatever it is, the names are those that are reported. -/
  behind_iff : ∃ head, (table.columns.map Column.name).head? = some head ∧
    (table.columns.map Column.name = head :: columns ↔
      (head :: columns).Pairwise Differ ∧ ∀ column ∈ columns, namesTruth column = false)
  /-- Where the key is a column of the source, it has its name, too. -/
  names_iff : ∀ index key, found.named? spec.rowKey = some (.column index) →
    found.columns[index]? = some key →
      (table.columns.map Column.name = key.name :: columns ↔
        (spec.rowKey :: columns).Pairwise Differ ∧
          ∀ name ∈ spec.rowKey :: columns, namesTruth name = false)

section

variable {spec : Spec} {options : Options} {catalog : Catalog} {report : Report}
  {relation : Relation} {found : Found} {key : Column} {table : Table}

theorem CreatesFrom.namesColumns (hof : relation.IsOf found)
    (h : CreatesFrom spec options catalog report relation key table) :
    NamesColumns spec found report.columns table := by
  have hcolumns : table.columns = distinctNames [] 1
      (key :: report.columns.map fun column => ⟨column, .none⟩) := congrArg Table.columns h.table_eq
  have hasked : (key :: report.columns.map fun column => (⟨column, .none⟩ : Column)).map
      Column.name = key.name :: report.columns := by
    rw [List.map_cons, List.map_map]
    exact congrArg _ (List.map_id report.columns)
  have hlength := congrArg List.length (map_affinity_distinctNames
    (key :: report.columns.map fun column => ⟨column, .none⟩) [] 1)
  refine ⟨?_, ?_, ⟨soundName 1 key.name, ?_, ?_⟩, ?_⟩
  · rw [hcolumns]
    exact (differ_distinctNames _ [] 1).1
  · rw [hcolumns]
    simpa using hlength
  · rw [hcolumns, distinctNames_cons]
    rfl
  · rw [hcolumns, distinctNames_cons, List.map_cons, List.cons.injEq, names_behind_iff]
    simp
  · intro index declared hindex hdeclared
    -- the key is asked for by the name under which it is declared
    rw [← hof.named?_eq] at hindex
    obtain rfl : declared = key := by
      have hkey := h.key_eq index hindex
      rw [hof, hdeclared] at hkey
      exact Option.some.inj hkey
    obtain ⟨column, hcolumn, hsame⟩ := exists_column_of_named? hindex
    obtain rfl : column = declared := by
      rw [h.key_eq index hindex] at hcolumn
      exact (Option.some.inj hcolumn).symm
    have hiff := names_distinctNames_iff [] 1
      (column :: report.columns.map fun column => ⟨column, .none⟩)
    rw [hasked] at hiff
    rw [hcolumns, hiff]
    simp only [List.pairwise_cons, List.forall_mem_cons, differ_congr hsame, namesTruth_congr hsame]
    simp [IsFree]

end

/-- **Names of a run.** No name of a built statement is taken twice. They differ for an engine that
compares them without case exactly if no two of them differ in case alone, and for one that folds
the bare ones exactly if no two of these are folded to the same, or one to the key. A run creates a
table whose names differ, and they are the reported ones exactly if these do and are no words for
truth. -/
theorem columns_differ_iff (spec : Spec) :
    (∀ dialect naming values statement, Sql.build spec dialect naming values = .ok statement →
      (spec.rowKey :: statement.columns).Nodup ∧
      ((spec.rowKey :: statement.columns).Pairwise Differ ↔
        DifferInMore (spec.rowKey :: statement.columns)) ∧
      ((spec.rowKey.toList :: statement.columns.map lowerCase).Nodup ↔
        (∀ column ∈ statement.columns, lowerCase column ≠ spec.rowKey.toList) ∧
          ∀ column ∈ statement.columns, ∀ other ∈ statement.columns,
            lowerCase column = lowerCase other → column = other)) ∧
    ∀ (options : Options) (catalog : Catalog) report, options.dryRun = false →
      ((runSpec spec options : Run Catalog Report).start catalog).1 = .ok report →
      ∃ found table, sourceFound? spec options catalog = some found ∧
        ((runSpec spec options).start catalog).2.store.named? spec.target = some table ∧
        NamesColumns spec found report.columns table := by
  constructor
  · intro dialect naming values statement hbuild
    have hnodup := nodup_of_build hbuild
    exact ⟨hnodup, pairwise_differ_iff hnodup, nodup_folded_iff (List.nodup_cons.1 hnodup).2⟩
  · intro options catalog report hreal hrun
    obtain ⟨found, relation, key, table, hfound, hof, hcreates⟩ := exists_createsFrom hreal hrun
    exact ⟨found, table, hfound, hcreates.named?, hcreates.namesColumns hof⟩

/-! ### Two names that differ in case -/

/-- Two texts that differ in case alone. -/
def caseRows : List (List Cell) :=
  [[.integer 1, .ofText "A", .integer 10], [.integer 1, .ofText "a", .integer 20]]

/-- The columns of the statement for these texts. -/
def caseColumns (dialect : Sql.Dialect) (naming : Sql.ColumnNaming) : Option (List String) :=
  (Sql.build smallSpec dialect naming (.ofList [.text "A", .text "a"])).toOption.map
    Sql.Statement.columns

/-- The columns and the values that a run over a small store reports. -/
def smallReport (rows : List (List Cell)) : Option (List String × List Value) :=
  match ((runSpec smallSpec .default).start (smallStore rows)).1 with
  | .ok report => some (report.columns, report.values.values)
  | .error _ => none

/-- The names `A` and `a` pass as two columns, in the one dialect and in the other. The run reports
them, but the second column of the table is called `a:1`. -/
theorem runSpec_renames_case :
    caseColumns .sqlite .quoted = some ["A", "a"] ∧
    ¬ (smallSpec.rowKey :: ["A", "a"]).Pairwise Differ ∧
    caseColumns .postgres .raw = some ["A", "a"] ∧
    ¬ (smallSpec.rowKey.toList :: ["A", "a"].map lowerCase).Nodup ∧
    smallReport caseRows = some (["A", "a"], [.text "A", .text "a"]) ∧
    (((runSpec smallSpec .default).start (smallStore caseRows)).2.store.named? "w").map
      (fun table => table.columns.map Column.name) = some ["id", "A", "a:1"] := by
  have hreported : reported smallSpec .default (smallStore caseRows) =
      some (["A", "a"], [.text "A", .text "a"], 0) := by
    rw [reported_of_dropped (dropped_smallStore caseRows rfl)]
    decide +kernel
  obtain ⟨report, hrun, hcolumns, hvalues, -⟩ := exists_of_reported hreported
  have hfinite : ∀ row ∈ (smallTable caseRows).rows, ∀ x, cellAt 1 row = .real x →
      x.isFinite = true := by
    simp [smallTable, caseRows, cellAt, Cell.ofText]
  obtain ⟨-, -, -, name, htarget⟩ := exists_crossTable (reached_smallStore caseRows) rfl hrun
    (named?_source_smallStore rfl) (axesOf_smallTable caseRows) hfinite
  have hnames (literals : List Cell) : (crossTable name (smallTable caseRows) ⟨0, 1, 2⟩ literals
      report.columns).columns.map Column.name = ["id", "A", "a:1"] := by
    rw [hcolumns]
    show (distinctNames [] 1 [.plain "id", .plain "A", .plain "a"]).map Column.name = _
    decide +kernel
  refine ⟨by decide +kernel, ?_, by decide +kernel, by decide, ?_,
    (congrArg _ htarget).trans (congrArg some (hnames _))⟩
  · intro hdiffer
    rw [pairwise_differ_iff (by decide)] at hdiffer
    exact absurd (hdiffer "A" (by simp) "a" (by simp) (by decide)) (by decide)
  · rw [smallReport, hrun, ← hcolumns, ← hvalues]

end Crosstab

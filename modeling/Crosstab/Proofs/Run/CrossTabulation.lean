import Crosstab.Proofs.Engine.Creation
import Crosstab.Proofs.Engine.Discovered
import Crosstab.Proofs.Engine.Lookup
import Crosstab.Proofs.Engine.Reached

/-!
# What a run makes of a table

A run that succeeds leaves the cross-tabulation of its source under the name of its target, unless
the engine spoils it in one of two ways: a column that would be called by a word for truth gets
another name, and the literal of a real may be read as another real.

    source ──drop, discover──▶ values ──build, execute──▶ crossTable
-/

namespace Crosstab

open Engine

/-! ### The values of a run -/

section

variable {source : Table} {axes : Axes} {values : List Value}

/-- The values are the distinct cells of the pivot column but for NULL. -/
def AreDiscovered (source : Table) (axes : Axes) (values : List Value) : Prop :=
  values.map Value.cell =
    (distinctCells (source.rows.map (cellAt axes.pivot))).filter (· ≠ .null)

namespace AreDiscovered

theorem distinct (h : AreDiscovered source axes values) :
    values.Pairwise fun value other => value.cell.same other.cell = false := by
  have hcells := (pairwise_distinctCells (source.rows.map (cellAt axes.pivot))).sublist
    (List.filter_sublist (p := (· ≠ .null)))
  rw [← h] at hcells
  exact List.pairwise_map.1 hcells

theorem occurs (h : AreDiscovered source axes values) :
    ∀ value ∈ values, ∃ row ∈ source.rows, cellAt axes.pivot row = value.cell := by
  intro value hvalue
  have hcell := List.mem_map_of_mem (f := Value.cell) hvalue
  rw [h] at hcell
  exact List.mem_map.1 (mem_of_mem_distinctCells (List.mem_filter.1 hcell).1)

theorem discovered (h : AreDiscovered source axes values) :
    ∀ row ∈ source.rows, cellAt axes.pivot row ≠ .null →
      ∃ value ∈ values, (cellAt axes.pivot row).equals value.cell = true := by
  intro row hrow hnull
  obtain ⟨cell, hcell, hsame⟩ :=
    exists_same_distinctCells (List.mem_map_of_mem (f := cellAt axes.pivot) hrow)
  have hnot : cell ≠ .null := by
    rintro rfl
    exact hnull (Cell.same_null_iff.1 (Cell.same_symm hsame))
  have hkept : cell ∈ values.map Value.cell := by
    rw [h]
    exact List.mem_filter.2 ⟨hcell, decide_eq_true hnot⟩
  obtain ⟨value, hvalue, rfl⟩ := List.mem_map.1 hkept
  exact ⟨value, hvalue, Cell.equals_iff.2 ⟨hnull, Cell.same_symm hsame⟩⟩

/-- The reals among the values are finite if those of the pivot column are. -/
theorem finite (h : AreDiscovered source axes values)
    (hfinite : ∀ row ∈ source.rows, ∀ x, cellAt axes.pivot row = .real x → x.isFinite = true) :
    ∀ value ∈ values, ∀ x, value = .real x → x.isFinite = true := by
  rintro value hvalue x rfl
  obtain ⟨row, hrow, hcell⟩ := h.occurs _ hvalue
  exact hfinite row hrow x hcell

end AreDiscovered

end

/-! ### Small runs -/

/-- A store with one table. -/
def smallStore (rows : List (List Cell)) : Catalog :=
  (Catalog.empty.perform (.create "s" (["id", "k", "amt"].map Column.plain))).perform
    (.insert "s" rows)

theorem reached_smallStore (rows : List (List Cell)) : Reached (smallStore rows) :=
  .performed _ (.performed _ (.connected .memory))

/-- What is to be done with that table. -/
def smallSpec : Spec := ⟨"w", "s", "id", "k", "amt"⟩

/-- The table of a small store. -/
def smallTable (rows : List (List Cell)) : Table := ⟨"s", ["id", "k", "amt"].map Column.plain, rows⟩

theorem axesOf_smallTable (rows : List (List Cell)) :
    Axes.Of ⟨0, 1, 2⟩ smallSpec (smallTable rows) :=
  ⟨by rfl, by rfl, by rfl⟩

/-! A small store has one table, with the rows as the table stores them; nothing in it is called
`w`. -/

section

variable (rows : List (List Cell))

theorem smallStore_eq : smallStore rows = (Catalog.empty.add .main (smallTable [])).setDatabase .main
    (((Catalog.empty.add .main (smallTable [])).database .main).insertRows "s" rows) := by
  have hresolve : (Catalog.empty.add .main (smallTable [])).resolve? none "s" = some .main := by
    decide
  show (Catalog.empty.add .main (smallTable [])).insertRows none "s" rows = _
  rw [Catalog.insertRows, hresolve]

theorem tableIn?_temp_smallStore (name : String) : (smallStore rows).tableIn? .temp name = none := by
  rw [smallStore_eq]
  rfl

theorem tableIn?_main_smallStore (name : String) : (smallStore rows).tableIn? .main name =
    if Text.sameButCase "s" name then some ((smallTable []).addRows rows) else none := by
  have htables : (smallStore rows).main.tables = [(smallTable []).addRows rows] := by
    rw [smallStore_eq]
    show (Database.insertRows _ _ _).tables = _
    rw [tables_insertRows]
    rfl
  show (smallStore rows).main.table? name = _
  rw [Database.table?, htables, List.find?_singleton]
  rfl

theorem named?_smallStore : (smallStore rows).named? "s" = some ((smallTable []).addRows rows) := by
  have href : tableRef? "s" = some (none, "s") := by decide
  have hmain := tableIn?_main_smallStore rows "s"
  rw [if_pos (by decide)] at hmain
  have hresolve : (smallStore rows).resolve? none "s" = some .main := by
    simp [Catalog.resolve?, Catalog.searched, tableIn?_temp_smallStore, hmain]
  rw [Catalog.named?, href, Option.bind_some, Catalog.table?, hresolve, Option.bind_some, hmain]

theorem found?_smallStore : (smallStore rows).found? "w" = none := by
  have href : tableRef? "w" = some (none, "w") := by decide
  have hmain := tableIn?_main_smallStore rows "w"
  rw [if_neg (by decide)] at hmain
  have hresolve : (smallStore rows).resolve? none "w" = none := by
    simp [Catalog.resolve?, Catalog.searched, tableIn?_temp_smallStore, hmain]
  have hschema : schemaTable? none "w" = none := by decide
  have hbuiltin : Builtin.find? "w" = none :=
    Builtin.find?_eq_none (by decide) fun told => by
      simp [Text.sameButCase, String.toList_append]
  rw [Catalog.found?, href, Option.bind_some]
  simp [Catalog.find?, Catalog.stored?, Catalog.builtin?, hresolve, hschema, hbuiltin]

/-- The target of a small run is new, so the drop leaves the store as it is. -/
theorem dropped_smallStore {spec : Spec} (htarget : spec.target = "w") :
    dropped spec .default (smallStore rows) = (.ok (), smallStore rows) := by
  rw [dropped_of_real rfl, htarget]
  refine dropTable_of_missing (by simp [IsWhole]) (by decide) ?_ (found?_smallStore rows)
  rw [smallStore_eq]
  rfl

end

/-- The source of a small run stays what it is. -/
theorem named?_source_smallStore {rows : List (List Cell)}
    (hrows : (smallTable []).addRows rows = smallTable rows) :
    (Store.dropTable (Sql.quoteTable smallSpec.target) (smallStore rows)).2.named?
      smallSpec.source = some (smallTable rows) := by
  have hdrop : dropped smallSpec .default (smallStore rows) = _ := dropped_smallStore rows rfl
  rw [dropped_of_real rfl] at hdrop
  rw [hdrop, ← hrows]
  exact named?_smallStore rows

/-- Two rows of one key. -/
def plainRows : List (List Cell) :=
  [[.integer 2, .ofText "A", .integer 7], [.integer 2, .ofText "A", .integer 10]]

/-- One value that is a word for truth. -/
def truthRows : List (List Cell) := [[.integer 1, .ofText "true", .integer 10]]

/-! ### The target of a run -/

section

variable {spec : Spec} {options : Options} {report : Report} {catalog : Catalog} {source : Table}
  {axes : Axes}

/-- The names of the columns differ under the name that the key column is declared with as they do
under that of the spec. -/
theorem pairwise_keyName (haxes : axes.Of spec source) {columns : List String}
    (h : (spec.rowKey :: columns).Pairwise fun name other => Text.sameButCase name other = false) :
    (axes.keyName source :: columns).Pairwise fun name other =>
      Text.sameButCase name other = false := by
  obtain ⟨column, hcolumn, hname⟩ := exists_keyColumn haxes
  have hkey : axes.keyName source = column.name := by rw [Axes.keyName, hcolumn, Option.elim_some]
  rw [List.pairwise_cons] at h ⊢
  refine ⟨fun other hother => ?_, h.2⟩
  rw [hkey, Bool.eq_false_iff]
  intro hsame
  have hrowKey := sameButCase_trans (sameButCase_symm hname) hsame
  rw [h.1 other hother] at hrowKey
  cases hrowKey

/-- The cells of a column of a table that a connection can come to are such as it can hold. -/
theorem pivotHolds_of_named? (hreached : Reached catalog) {name : String}
    (hsource : catalog.named? name = some source) : PivotHolds source axes := by
  obtain ⟨ref, -, htable⟩ := Option.bind_eq_some_iff.1 hsource
  obtain ⟨schema, -, hfound⟩ := Option.bind_eq_some_iff.1 htable
  exact fun row hrow =>
    hreached.isSound schema source (Catalog.tableIn?_eq_some hfound).1 row hrow axes.pivot

/-- A run that succeeds leaves the table of its literals under the name of its target. -/
theorem exists_crossTable (hreached : Reached catalog) (hreal : options.dryRun = false)
    (hrun : ((runSpec spec options : Run Catalog Report).start catalog).1 = .ok report)
    (hsource : (Store.dropTable (Sql.quoteTable spec.target) catalog).2.named? spec.source =
      some source)
    (haxes : axes.Of spec source)
    (hfinite : ∀ row ∈ source.rows, ∀ x, cellAt axes.pivot row = .real x → x.isFinite = true) :
    AreDiscovered source axes report.values.values ∧ PivotHolds source axes ∧
      report.columns.length = report.values.values.length ∧
      ∃ name, ((runSpec spec options).start catalog).2.store.named? spec.target =
        some (crossTable name source axes (report.values.values.map Value.readBack)
          report.columns) := by
  obtain ⟨hanswer, hstore⟩ := (follows_runSpec spec options).start catalog
  rw [hanswer] at hrun
  rw [hstore]
  have hcourse : course spec options catalog = (.ok report, (course spec options catalog).2) :=
    Prod.ext hrun rfl
  obtain ⟨dropped, discovered, statement, hdrop, hdiscover, hbuild, hcreate, hcolumns⟩ :=
    course_eq_ok hcourse
  rw [dropped_of_real hreal] at hdrop
  rw [created_of_real hreal] at hcreate
  have htarget := isSome_tableRef?_of_dropTable hdrop
  rw [hdrop] at hsource
  -- the drop is one more text that the store executes
  have hdropped : Reached dropped := by
    have hexecuted := hreached.executed (dropText spec.target)
    rwa [show (Store.execute (dropText spec.target) catalog).2 = dropped from
      congrArg Prod.snd hdrop] at hexecuted
  have hexecute := execute_eq_ok_of_store hcreate
  have hvalues : AreDiscovered source axes report.values.values :=
    map_cell_discover hsource haxes.pivot hfinite hdiscover
  -- neither the query nor what the store notes changes the tables
  have hfound : (discovered.noting statement.sql).named? spec.source = some source := by
    have hquery := sameTables_discover spec dropped
    rw [hdiscover] at hquery
    rw [(sameTables_noting discovered statement.sql).named?_eq, hquery.named?_eq, hsource]
  rw [hcolumns]
  refine ⟨hvalues, pivotHolds_of_named? hdropped hsource, (Sql.claimed_of_build hbuild).length_eq,
    named?_of_execute hbuild ?_ htarget hfound haxes hexecute⟩
  exact fun x hx => hvalues.finite hfinite _ hx x rfl

/-- A run that succeeds leaves the cross-tabulation of its source over the discovered values, in
columns with the reported names, exactly if none of these names is a word for truth and the
literals of the values stand for them. -/
theorem runSpec_crossTabulates_iff (hreached : Reached catalog) (hreal : options.dryRun = false)
    (hrun : ((runSpec spec options : Run Catalog Report).start catalog).1 = .ok report)
    (hsource : (Store.dropTable (Sql.quoteTable spec.target) catalog).2.named? spec.source =
      some source)
    (haxes : axes.Of spec source)
    (hfinite : ∀ row ∈ source.rows, ∀ x, cellAt axes.pivot row = .real x → x.isFinite = true)
    (hnames : (spec.rowKey :: report.columns).Pairwise fun name other =>
      Text.sameButCase name other = false) :
    (∃ result, ((runSpec spec options).start catalog).2.store.named? spec.target = some result ∧
        CrossTabulates source axes report.values.values (axes.keyName source :: report.columns)
          result) ↔
      (∀ name ∈ axes.keyName source :: report.columns, namesTruth name = false) ∧
        ReadsTrue source axes report.values.values := by
  obtain ⟨hvalues, hholds, hlength, name, htarget⟩ :=
    exists_crossTable hreached hreal hrun hsource haxes hfinite
  have hliterals : ∀ value ∈ report.values.values,
      (source.relation.affinity axes.pivot).Holds value.readBack := by
    intro value hvalue
    obtain ⟨row, hrow, hcell⟩ := hvalues.occurs value hvalue
    exact Affinity.holds_readBack (hvalues.finite hfinite value hvalue) (hcell ▸ hholds row hrow)
  have hiff := crossTabulates_iff hholds hliterals hlength (pairwise_keyName haxes hnames)
    hvalues.distinct hvalues.discovered hvalues.occurs name
  rw [htarget, ← hiff]
  constructor
  · rintro ⟨result, hresult, hcross⟩
    obtain rfl := Option.some.inj hresult
    exact hcross
  · exact fun hcross => ⟨_, rfl, hcross⟩

end

/-- A run of two rows of one key gives one row with the greater of the two values. -/
theorem runSpec_crossTabulates_plainRows : ∃ report result,
    ((runSpec smallSpec .default : Run Catalog Report).start (smallStore plainRows)).1 =
      .ok report ∧ report.columns = ["A"] ∧
    ((runSpec smallSpec .default).start (smallStore plainRows)).2.store.named? "w" = some result ∧
    CrossTabulates (smallTable plainRows) ⟨0, 1, 2⟩ [.text "A"] ["id", "A"] result := by
  have hreported : reported smallSpec .default (smallStore plainRows) =
      some (["A"], [.text "A"], 0) := by
    rw [reported_of_dropped (dropped_smallStore plainRows rfl)]
    decide +kernel
  obtain ⟨report, hrun, hcolumns, hvalues, -⟩ := exists_of_reported hreported
  have haxes := axesOf_smallTable plainRows
  have hfinite : ∀ row ∈ (smallTable plainRows).rows, ∀ x, cellAt 1 row = .real x →
      x.isFinite = true := by
    simp [smallTable, plainRows, cellAt, Cell.ofText]
  have hiff := runSpec_crossTabulates_iff (reached_smallStore plainRows) rfl hrun
    (named?_source_smallStore rfl) haxes hfinite (by rw [hcolumns]; decide)
  have hreads : ReadsTrue (smallTable plainRows) ⟨0, 1, 2⟩ report.values.values := by
    refine readsTrue_of_readBack ?_
    rw [hvalues]
    simp [Value.readBack_text, Value.cell]
  obtain ⟨result, hresult, hcross⟩ := hiff.2 ⟨by rw [hcolumns]; decide, hreads⟩
  rw [hcolumns, hvalues] at hcross
  exact ⟨report, result, hrun, hcolumns, hresult, hcross⟩

/-- A run reports a column `true`, but the engine calls it otherwise: the target is not the
cross-tabulation that is reported. -/
theorem runSpec_renames_truth : Reached (smallStore truthRows) ∧
    (Store.dropTable (Sql.quoteTable smallSpec.target) (smallStore truthRows)).2.named?
      smallSpec.source = some (smallTable truthRows) ∧
    Axes.Of ⟨0, 1, 2⟩ smallSpec (smallTable truthRows) ∧
    ∃ report result,
      ((runSpec smallSpec .default : Run Catalog Report).start (smallStore truthRows)).1 =
        .ok report ∧ report.columns = ["true"] ∧
      ((runSpec smallSpec .default).start (smallStore truthRows)).2.store.named? "w" =
        some result ∧ result.columns.map Column.name = ["id", "column2"] ∧
      ¬ CrossTabulates (smallTable truthRows) ⟨0, 1, 2⟩ report.values.values ["id", "true"]
        result := by
  have hreported : reported smallSpec .default (smallStore truthRows) =
      some (["true"], [.text "true"], 0) := by
    rw [reported_of_dropped (dropped_smallStore truthRows rfl)]
    decide +kernel
  obtain ⟨report, hrun, hcolumns, -⟩ := exists_of_reported hreported
  have hreached := reached_smallStore truthRows
  have hsource : (Store.dropTable (Sql.quoteTable smallSpec.target)
      (smallStore truthRows)).2.named? smallSpec.source = some (smallTable truthRows) :=
    named?_source_smallStore rfl
  have haxes := axesOf_smallTable truthRows
  have hfinite : ∀ row ∈ (smallTable truthRows).rows, ∀ x, cellAt 1 row = .real x →
      x.isFinite = true := by
    simp [smallTable, truthRows, cellAt, Cell.ofText]
  obtain ⟨-, -, -, name, htarget⟩ := exists_crossTable hreached rfl hrun hsource haxes hfinite
  have hnames (literals : List Cell) : (crossTable name (smallTable truthRows) ⟨0, 1, 2⟩ literals
      report.columns).columns.map Column.name = ["id", "column2"] := by
    rw [hcolumns]
    show (distinctNames [] 1 [.plain "id", .plain "true"]).map Column.name = _
    decide +kernel
  refine ⟨hreached, hsource, haxes, report, _, hrun, hcolumns, htarget, hnames _, fun hcross => ?_⟩
  have hreported := hcross.names_eq
  rw [hnames] at hreported
  exact absurd hreported (by decide)

end Crosstab

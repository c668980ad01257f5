import Crosstab.Proofs.Run.Columns
import Crosstab.Proofs.Run.Coverage

/-!
# Names that a source does not know

No run notices that a name of its spec is no column of its source. The names stand in quotes, and
the engine reads a name in quotes that it does not know as the text that it spells:

    unknown pivot column ──▶ one value, the name itself
    unknown key          ──▶ one row, with the name as its key
    unknown value column ──▶ the name in all cells that are not NULL
-/

namespace Crosstab

open Engine

/-- What comes of the names of a spec that its source does not know, in a run with a report. -/
structure ReadsTexts (spec : Spec) (options : Options) (catalog : Catalog) (found : Found)
    (report : Report) : Prop where
  pivot : found.named? spec.pivot = none → report.values.skippedNulls = 0 ∧
    ∀ relation, askedRelation? spec options catalog = some relation →
      report.values.values = if relation.rows = [] then [] else [.text spec.pivot]
  /-- There is one row at most, and its key is the name. -/
  rowKey : found.named? spec.rowKey = none → options.dryRun = false → ∃ table,
    ((runSpec spec options).start catalog).2.store.named? spec.target = some table ∧
      table.rows.length ≤ 1 ∧ ∀ line ∈ table.rows, line.headD .null = .ofText spec.rowKey
  /-- There is nothing in the cells but the name. -/
  value : found.named? spec.value = none → options.dryRun = false → ∃ table,
    ((runSpec spec options).start catalog).2.store.named? spec.target = some table ∧
      ∀ line ∈ table.rows, ∀ cell ∈ line.tail, cell = .null ∨ cell = .ofText spec.value
  /-- A dry run reports the same for any other key and value column. -/
  dry : options.dryRun = true → ∀ rowKey value, rowKey ∉ report.columns → ∃ other,
    ((runSpec { spec with rowKey, value } options : Run Catalog Report).start catalog).1 =
        .ok other ∧
      other.values = report.values ∧ other.columns = report.columns

section

variable {spec : Spec} {options : Options} {catalog : Catalog} {report : Report} {found : Found}

/-- Values are determined by their cells. -/
theorem eq_text_of_cell {value : Value} {text : String} (h : value.cell = .ofText text) :
    value = .text text := by
  cases value with
  | text other =>
    have hbytes : other.toByteArray = text.toByteArray := Cell.text.inj h
    rw [String.toByteArray_inj.1 hbytes]
  | _ => cases h

/-- A run that succeeds has found its source, and its values are what the name of the pivot column
is read as there. -/
theorem exists_asked
    (hrun : ((runSpec spec options : Run Catalog Report).start catalog).1 = .ok report) :
    ∃ found relation, sourceFound? spec options catalog = some found ∧
      askedRelation? spec options catalog = some relation ∧ relation.IsOf found ∧
      report.values.values.map Value.cell =
        (distinctColumn relation (Source.reads relation spec.pivot)).filter
          (fun cell => !cell.showsNull) ∧
      report.values.skippedNulls =
        (distinctColumn relation (Source.reads relation spec.pivot)).countP Cell.showsNull := by
  obtain ⟨behind, discovered, -, hdrop, hdiscover, -⟩ := exists_course hrun
  obtain ⟨-, written, -, -, hrefers, relation, hrelation, hvalues⟩ :=
    discover_eq_ok (congrArg Prod.fst hdiscover)
  obtain ⟨found, hfound, hof⟩ := exists_isOf (sameTables_noting behind _) hrefers hrelation
  have hasked : askedRelation? spec options catalog = some relation := by
    rw [findSource_eq hrefers] at hrelation
    unfold askedRelation?
    rw [hdrop]
    dsimp only
    split at hrelation
    · next other hother =>
      rw [hother, Option.map_some]
      exact congrArg some (Except.ok.inj hrelation)
    · cases hrelation
  rw [sourceFound?, hdrop]
  exact ⟨found, relation, hfound, hasked, hof, hvalues⟩

theorem values_of_unknown_pivot
    (hrun : ((runSpec spec options : Run Catalog Report).start catalog).1 = .ok report)
    (hfound : sourceFound? spec options catalog = some found)
    (hunknown : found.named? spec.pivot = none) : report.values.skippedNulls = 0 ∧
      ∀ relation, askedRelation? spec options catalog = some relation →
        report.values.values = if relation.rows = [] then [] else [.text spec.pivot] := by
  obtain ⟨other, asked, hother, hasked, hof, hvalues, hskipped⟩ := exists_asked hrun
  obtain rfl := Option.some.inj (hother.symm.trans hfound)
  have hnone : Source.named? asked spec.pivot = none := (hof.named?_eq _).trans hunknown
  rw [reads_of_unknown hnone, distinctColumn_constant] at hvalues hskipped
  constructor
  · rw [hskipped]
    split <;> rfl
  · intro relation hrelation
    obtain rfl := Option.some.inj (hasked.symm.trans hrelation)
    split
    · next hempty =>
      rw [if_pos hempty] at hvalues
      exact List.map_eq_nil_iff.1 hvalues
    · next hrows =>
      rw [if_neg hrows] at hvalues
      obtain ⟨value, hvalue, hcell⟩ := List.map_eq_singleton_iff.1 hvalues
      rw [hvalue, eq_text_of_cell hcell]

theorem reports_of_dry (hdry : options.dryRun = true)
    (hrun : ((runSpec spec options : Run Catalog Report).start catalog).1 = .ok report)
    {rowKey : String} (value : String) (hkey : rowKey ∉ report.columns) : ∃ other,
      ((runSpec { spec with rowKey, value } options : Run Catalog Report).start catalog).1 =
          .ok other ∧
        other.values = report.values ∧ other.columns = report.columns := by
  rw [((follows_runSpec spec options).start catalog).1, course_dry spec hdry] at hrun
  rw [((follows_runSpec _ options).start catalog).1, course_dry _ hdry]
  rcases hassembled : assembled spec options (discoveryAnswer spec catalog).1 with
    error | ⟨values, statement⟩
  · rw [hassembled] at hrun
    cases hrun
  rw [hassembled] at hrun
  cases hrun
  obtain ⟨result, hresult, hvalues, hbuild⟩ := assembled_eq_ok hassembled
  have hfree : ∀ column ∈ statement.columns, column ∉ [rowKey] := by
    intro column hcolumn hmem
    obtain rfl := List.mem_singleton.1 hmem
    exact hkey hcolumn
  -- the other key takes no name that a value needs
  have hcolumns : Sql.outputColumns { spec with rowKey, value } options.naming values.values =
      .ok statement.columns :=
    Sql.claimNames_of_claimed ((Sql.claimed_of_build hbuild).congr hfree)
  obtain ⟨other, hother, hnames⟩ : ∃ other,
      Sql.build { spec with rowKey, value } options.dialect options.naming values = .ok other ∧
        other.columns = statement.columns :=
    ⟨_, Sql.build_eq_ok_iff.2 ⟨_, hcolumns, rfl⟩, rfl⟩
  have hagain : assembled { spec with rowKey, value } options
      (discoveryAnswer { spec with rowKey, value } catalog).1 = .ok (values, other) := by
    have hsame : (discoveryAnswer { spec with rowKey, value } catalog).1 = .ok result := hresult
    rw [hsame]
    simp only [assembled, hvalues, hother]
  rw [hagain]
  exact ⟨_, rfl, rfl, hnames⟩

end

/-- **Unknown names.** A run that succeeds has found its source, but the names of columns that the
source does not know are read as texts, and nothing is said of it. -/
theorem runSpec_reads_unknown {spec : Spec} {options : Options} {catalog : Catalog}
    {report : Report}
    (hrun : ((runSpec spec options : Run Catalog Report).start catalog).1 = .ok report) :
    ∃ found, sourceFound? spec options catalog = some found ∧
      ReadsTexts spec options catalog found report := by
  obtain ⟨found, -, hfound, -⟩ := exists_asked hrun
  have hcreated (hreal : options.dryRun = false) : ∃ relation key table,
      relation.IsOf found ∧ CreatesFrom spec options catalog report relation key table := by
    obtain ⟨other, relation, key, table, hother, hof, hcreates⟩ := exists_createsFrom hreal hrun
    obtain rfl := Option.some.inj (hother.symm.trans hfound)
    exact ⟨relation, key, table, hof, hcreates⟩
  refine ⟨found, hfound, values_of_unknown_pivot hrun hfound, ?_, ?_,
    fun hdry rowKey value => reports_of_dry hdry hrun value⟩
  · intro hunknown hreal
    obtain ⟨relation, key, table, hof, hcreates⟩ := hcreated hreal
    refine ⟨table, hcreates.named?, ?_⟩
    rw [hcreates.table_eq]
    exact rows_of_unknown_key ((hof.named?_eq _).trans hunknown)
  · intro hunknown hreal
    obtain ⟨relation, key, table, hof, hcreates⟩ := hcreated hreal
    refine ⟨table, hcreates.named?, ?_⟩
    rw [hcreates.table_eq]
    exact cells_of_unknown_value ((hof.named?_eq _).trans hunknown)

/-! ### A misspelt name -/

/-- The small spec with its pivot column misspelt. -/
def misspeltSpec : Spec := { smallSpec with pivot := "kind" }

theorem reported_misspeltSpec :
    reported misspeltSpec .default (smallStore plainRows) =
      some (["kind"], [.text "kind"], 0) := by
  rw [reported_of_dropped (dropped_smallStore plainRows rfl)]
  decide +kernel

theorem sourceFound?_misspeltSpec : ∃ schema,
    sourceFound? misspeltSpec .default (smallStore plainRows) =
      some (.stored schema (smallTable plainRows)) := by
  have hkept : (Store.dropTable (Sql.quoteTable misspeltSpec.target) (smallStore plainRows)).2.named?
      misspeltSpec.source = some (smallTable plainRows) :=
    named?_source_smallStore rfl
  obtain ⟨⟨qualifier, own⟩, href, htable⟩ := Option.bind_eq_some_iff.1 hkept
  obtain ⟨schema, hfind⟩ := Catalog.find?_of_table htable
  refine ⟨schema, ?_⟩
  rw [sourceFound?, dropped_of_real rfl, Catalog.found?, href, Option.bind_some]
  exact hfind

/-- The name of the pivot column is the only value of the run. -/
theorem runSpec_reads_misspeltSpec : ∃ found report,
    sourceFound? misspeltSpec .default (smallStore plainRows) = some found ∧
      found.named? misspeltSpec.pivot = none ∧
      ((runSpec misspeltSpec .default : Run Catalog Report).start (smallStore plainRows)).1 =
          .ok report ∧
      ReadsTexts misspeltSpec .default (smallStore plainRows) found report := by
  obtain ⟨report, hrun, -⟩ := exists_of_reported reported_misspeltSpec
  obtain ⟨found, hfound, hreads⟩ := runSpec_reads_unknown hrun
  obtain ⟨schema, hsource⟩ := sourceFound?_misspeltSpec
  obtain rfl := Option.some.inj (hfound.symm.trans hsource)
  exact ⟨_, report, hsource, rfl, hrun, hreads⟩

/-- The source has no column of the misspelt name, and the run succeeds: it reports one column, of
that very name. -/
theorem runSpec_accepts_misspeltSpec :
    (∃ found, sourceFound? misspeltSpec .default (smallStore plainRows) = some found ∧
      ∀ column ∈ found.columns, Text.sameButCase column.name misspeltSpec.pivot = false) ∧
    ∃ report,
      ((runSpec misspeltSpec .default : Run Catalog Report).start (smallStore plainRows)).1 =
          .ok report ∧
        report.values.values = [.text "kind"] ∧ report.columns = ["kind"] := by
  obtain ⟨report, hrun, hcolumns, hvalues, -⟩ := exists_of_reported reported_misspeltSpec
  obtain ⟨schema, hsource⟩ := sourceFound?_misspeltSpec
  refine ⟨⟨_, hsource, ?_⟩, report, hrun, hvalues, hcolumns⟩
  change ∀ column ∈ ["id", "k", "amt"].map Column.plain, _
  decide

end Crosstab

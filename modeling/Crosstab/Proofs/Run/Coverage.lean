import Crosstab.Proofs.Engine.Lookup
import Crosstab.Proofs.Run.CrossTabulation
import Mathlib.Data.List.Nodup

/-!
# The cells behind the values

Which cells of the pivot column the values of a run stand for. Between the column and the values
there are the distinct cells, the cells that JSON can show, and the set of the values:

    cells ──distinct──▶ cells ──not shown as null──▶ values
                          └─────shown as null──────▶ skipped

Every cell but NULL that JSON can show has a value that is equal to it, and a cell that is neither
ends the run. Infinities are shown as `null`, so the values stand for all cells but NULL exactly if
the column holds no infinity.
-/

namespace Crosstab

open Engine

/-! ### The distinct cells of a column -/

namespace Engine

section

variable {relation : Relation} {source : Source} {row : Row} {cell : Cell}

theorem exists_same_distinctColumn (source : Source) (h : row ∈ relation.rows) :
    ∃ cell ∈ distinctColumn relation source, cell.same (source.cell row) = true := by
  obtain ⟨cell, hcell, hsame⟩ :=
    exists_same_distinctCells (List.mem_map_of_mem (f := source.cell) h)
  exact ⟨cell, (perm_distinctColumn relation source).mem_iff.2 hcell, hsame⟩

theorem exists_row_of_mem (h : cell ∈ distinctColumn relation source) :
    ∃ row ∈ relation.rows, source.cell row = cell :=
  List.mem_map.1 (mem_of_mem_distinctCells ((perm_distinctColumn relation source).mem_iff.1 h))

theorem nodup_distinctColumn (relation : Relation) (source : Source) :
    (distinctColumn relation source).Nodup := by
  refine (pairwise_distinctColumn relation source).imp fun {cell other} h => ?_
  rintro rfl
  rw [Cell.same_refl] at h
  cases h

theorem null_mem_distinctColumn_iff : Cell.null ∈ distinctColumn relation source ↔
    ∃ row ∈ relation.rows, source.cell row = .null := by
  refine ⟨exists_row_of_mem, ?_⟩
  rintro ⟨row, hrow, hnull⟩
  obtain ⟨cell, hcell, hsame⟩ := exists_same_distinctColumn source hrow
  rw [hnull] at hsame
  rwa [Cell.same_null_iff.1 hsame] at hcell

theorem showsNull_iff_of_finite
    (h : ∀ row ∈ relation.rows, ∀ x, source.cell row = .real x → x.isFinite = true)
    (hrow : row ∈ relation.rows) : (source.cell row).showsNull = true ↔ source.cell row = .null := by
  rcases hcase : source.cell row with _ | _ | x | _ | _
  case real => simp [Cell.showsNull, h row hrow x hcase]
  all_goals simp [Cell.showsNull]

end

end Engine

/-! ### What is asked -/

/-- The relation that a run of a spec asks for its values: what the name of the source stands for
behind the drop. -/
def askedRelation? (spec : Spec) (options : Options) (catalog : Catalog) : Option Relation :=
  let asked := (dropped spec options catalog).2.noting (Sql.discoverySql spec)
  (asked.found? spec.source).map fun found => found.relation asked false

/-- The values stand for all cells but NULL, and the number beside them tells whether there is a
NULL. -/
structure Covers (relation : Relation) (pivot : Source) (values : ValueSet) : Prop where
  discovered : ∀ row ∈ relation.rows, pivot.cell row ≠ .null →
    ∃ value ∈ values.values, (pivot.cell row).equals value.cell = true
  skippedNull : (∃ row ∈ relation.rows, pivot.cell row = .null) → values.skippedNulls = 1
  skippedNone : (∀ row ∈ relation.rows, pivot.cell row ≠ .null) → values.skippedNulls = 0

/-- What values are to the cells of a column, infinities included: the distinct cells that are not
shown as `null` have become values, and the others are counted. -/
structure Discovers (relation : Relation) (pivot : Source) (values : ValueSet) : Prop where
  values_eq : values.values.map Value.cell =
    (distinctColumn relation pivot).filter fun cell => !cell.showsNull
  skipped_eq : values.skippedNulls = (distinctColumn relation pivot).countP Cell.showsNull

section

variable {spec : Spec} {options : Options} {catalog : Catalog} {report : Report}
  {relation : Relation} {pivot : Source}

theorem discovers_of_run
    (hrun : ((runSpec spec options : Run Catalog Report).start catalog).1 = .ok report)
    (hsource : askedRelation? spec options catalog = some relation)
    (hpivot : Source.named? relation spec.pivot = some pivot) :
    Discovers relation pivot report.values := by
  rw [((follows_runSpec spec options).start catalog).1] at hrun
  have hcourse : course spec options catalog = (.ok report, (course spec options catalog).2) :=
    Prod.ext hrun rfl
  obtain ⟨behind, discovered, -, hdrop, hdiscover, -⟩ := course_eq_ok hcourse
  obtain ⟨-, written, -, -, hrefers, asked, hasked, hvalues, hskipped⟩ :=
    discover_eq_ok (congrArg Prod.fst hdiscover)
  -- the query reads what the name of the source stands for behind the drop
  unfold askedRelation? at hsource
  rw [hdrop] at hsource
  obtain ⟨found, hfound, rfl⟩ := Option.map_eq_some_iff.1 hsource
  rw [findSource_eq hrefers, hfound] at hasked
  cases hasked
  rw [pivotSource, hpivot, Option.getD_some] at hvalues hskipped
  exact ⟨hvalues, hskipped⟩

end

/-! ### Values and cells -/

namespace Discovers

variable {relation : Relation} {pivot : Source} {values : ValueSet}

/-- What is not shown as `null` has a value. -/
theorem exists_equal (h : Discovers relation pivot values) {row : Row} (hrow : row ∈ relation.rows)
    (hshown : (pivot.cell row).showsNull = false) :
    ∃ value ∈ values.values, (pivot.cell row).equals value.cell = true := by
  obtain ⟨cell, hcell, hsame⟩ := exists_same_distinctColumn pivot hrow
  have hkept : cell ∈ values.values.map Value.cell := by
    rw [h.values_eq, List.mem_filter, Cell.showsNull_congr hsame, hshown]
    exact ⟨hcell, rfl⟩
  obtain ⟨value, hvalue, rfl⟩ := List.mem_map.1 hkept
  have hnull : pivot.cell row ≠ .null := by
    intro hnull
    rw [hnull] at hshown
    cases hshown
  exact ⟨value, hvalue, Cell.equals_iff.2 ⟨hnull, Cell.same_symm hsame⟩⟩

/-- What is shown as `null` has none. -/
theorem showsNull_of_equal (h : Discovers relation pivot values) {cell : Cell} {value : Value}
    (hvalue : value ∈ values.values) (hequal : cell.equals value.cell = true) :
    cell.showsNull = false := by
  have hkept := List.mem_map_of_mem (f := Value.cell) hvalue
  rw [h.values_eq, List.mem_filter, Bool.not_eq_true'] at hkept
  rw [Cell.showsNull_congr (Cell.equals_iff.1 hequal).2]
  exact hkept.2

/-- Where all reals are finite, only NULL is skipped, and once if at all. -/
theorem skipped_of_finite (h : Discovers relation pivot values)
    (hfinite : ∀ row ∈ relation.rows, ∀ x, pivot.cell row = .real x → x.isFinite = true) :
    values.skippedNulls = (distinctColumn relation pivot).count .null := by
  rw [h.skipped_eq, List.count]
  refine List.countP_congr fun cell hcell => ?_
  obtain ⟨row, hrow, rfl⟩ := exists_row_of_mem hcell
  rw [showsNull_iff_of_finite hfinite hrow, beq_iff_eq]

theorem covers_iff (h : Discovers relation pivot values) : Covers relation pivot values ↔
    ∀ row ∈ relation.rows, ∀ x, pivot.cell row = .real x → x.isFinite = true := by
  constructor
  · -- an infinity has no value, but a value has to be equal to it
    intro hcovers row hrow x hreal
    obtain ⟨value, hvalue, hequal⟩ := hcovers.discovered row hrow (by rw [hreal]; nofun)
    have hshown := h.showsNull_of_equal hvalue hequal
    rw [hreal] at hshown
    simpa [Cell.showsNull] using hshown
  · intro hfinite
    have hskipped := h.skipped_of_finite hfinite
    constructor
    · intro row hrow hnull
      apply h.exists_equal hrow
      rw [Bool.eq_false_iff, Ne, showsNull_iff_of_finite hfinite hrow]
      exact hnull
    · intro hnull
      rw [hskipped]
      exact List.count_eq_one_of_mem (nodup_distinctColumn relation pivot)
        (null_mem_distinctColumn_iff.2 hnull)
    · intro hnone
      rw [hskipped]
      apply List.count_eq_zero_of_not_mem
      intro hnull
      obtain ⟨row, hrow, hcell⟩ := null_mem_distinctColumn_iff.1 hnull
      exact hnone row hrow hcell

end Discovers

/-- Every cell of the pivot column that is neither NULL nor an infinity has a value that is equal
to it, and the others are counted once each. So a run loses no cell and counts nothing but NULL
exactly if the column holds no infinity. -/
theorem runSpec_covers_iff {spec : Spec} {options : Options} {catalog : Catalog} {report : Report}
    {relation : Relation} {pivot : Source}
    (hrun : ((runSpec spec options : Run Catalog Report).start catalog).1 = .ok report)
    (hsource : askedRelation? spec options catalog = some relation)
    (hpivot : Source.named? relation spec.pivot = some pivot) :
    (∀ row ∈ relation.rows, (pivot.cell row).showsNull = false →
        ∃ value ∈ report.values.values, (pivot.cell row).equals value.cell = true) ∧
      report.values.skippedNulls =
        (distinctCells (relation.rows.map pivot.cell)).countP Cell.showsNull ∧
      (Covers relation pivot report.values ↔
        ∀ row ∈ relation.rows, ∀ x, pivot.cell row = .real x → x.isFinite = true) := by
  have hdiscovers := discovers_of_run hrun hsource hpivot
  refine ⟨fun row hrow hshown => hdiscovers.exists_equal hrow hshown, ?_, hdiscovers.covers_iff⟩
  rw [hdiscovers.skipped_eq]
  exact (perm_distinctColumn relation pivot).countP_eq _

/-! ### Small columns -/

/-- A text and a NULL. -/
def nullRows : List (List Cell) :=
  [[.integer 1, .ofText "A", .integer 10], [.integer 2, .null, .integer 20]]

/-- A text and an infinity. -/
def infiniteRows : List (List Cell) :=
  [[.integer 1, .ofText "A", .integer 10], [.integer 1, .real ⟨0x7ff0000000000000⟩, .integer 20]]

theorem askedRelation?_smallStore {rows : List (List Cell)}
    (hrows : (smallTable []).addRows rows = smallTable rows) :
    askedRelation? smallSpec .default (smallStore rows) = some (smallTable rows).relation := by
  have hkept := named?_source_smallStore hrows
  rw [← (sameTables_noting _ (Sql.discoverySql smallSpec)).named?_eq] at hkept
  obtain ⟨⟨qualifier, own⟩, href, htable⟩ := Option.bind_eq_some_iff.1 hkept
  obtain ⟨schema, hfind⟩ := Catalog.find?_of_table htable
  unfold askedRelation?
  dsimp only
  rw [dropped_of_real rfl, Catalog.found?, href, Option.bind_some, hfind]
  rfl

/-- A run over a text and a NULL has the one value and counts the other. -/
theorem runSpec_covers_nullRows : ∃ report,
    ((runSpec smallSpec .default : Run Catalog Report).start (smallStore nullRows)).1 =
        .ok report ∧
      report.values.values = [.text "A"] ∧ report.values.skippedNulls = 1 ∧
      Covers (smallTable nullRows).relation (.column 1) report.values := by
  have hreported : reported smallSpec .default (smallStore nullRows) =
      some (["A"], [.text "A"], 1) := by
    rw [reported_of_dropped (dropped_smallStore nullRows rfl)]
    decide +kernel
  obtain ⟨report, hrun, -, hvalues, hskipped⟩ := exists_of_reported hreported
  have hcovers := runSpec_covers_iff hrun
    (askedRelation?_smallStore rfl)
    (named?_of_column? (axesOf_smallTable nullRows).pivot)
  refine ⟨report, hrun, hvalues, hskipped, hcovers.2.2.2 ?_⟩
  intro row hrow x hreal
  rcases List.mem_cons.1 hrow with rfl | hrow
  · cases hreal
  · obtain rfl := List.mem_singleton.1 hrow
    cases hreal

/-- A run over a text and an infinity has no value for the infinity and counts it as a NULL, though
there is none. -/
theorem runSpec_skips_infinity :
    askedRelation? smallSpec .default (smallStore infiniteRows) =
        some (smallTable infiniteRows).relation ∧
      Source.named? (smallTable infiniteRows).relation smallSpec.pivot = some (.column 1) ∧
      ∃ report,
        ((runSpec smallSpec .default : Run Catalog Report).start (smallStore infiniteRows)).1 =
          .ok report ∧
        report.values.values = [.text "A"] ∧ report.values.skippedNulls = 1 ∧
        ¬ Covers (smallTable infiniteRows).relation (.column 1) report.values := by
  have hreported : reported smallSpec .default (smallStore infiniteRows) =
      some (["A"], [.text "A"], 1) := by
    rw [reported_of_dropped (dropped_smallStore infiniteRows rfl)]
    decide +kernel
  obtain ⟨report, hrun, -, hvalues, hskipped⟩ := exists_of_reported hreported
  refine ⟨askedRelation?_smallStore rfl,
    named?_of_column? (axesOf_smallTable infiniteRows).pivot, report, hrun, hvalues, hskipped,
    fun hcovers => ?_⟩
  have hnone := hcovers.skippedNone fun row hrow hnull => by
    rcases List.mem_cons.1 hrow with rfl | hrow
    · cases hnull
    · obtain rfl := List.mem_singleton.1 hrow
      cases hnull
  rw [hskipped] at hnone
  cases hnone

end Crosstab

import Crosstab.Proofs.Engine.Creation
import Crosstab.Proofs.Engine.Discovered
import Crosstab.Proofs.Engine.Lookup
import Crosstab.Proofs.Run.Calls

/-!
# The frame of a run

A run changes two tables at most: it takes away the one that its target stands for beforehand, and
it puts a new one behind the others of `temp`. If it fails, nothing is new, and at most the target
is gone.

    catalog ──drop──▶ catalog without the target ──query──▶ the same ──create──▶ one table more
-/

namespace Crosstab

open Engine

/-- The tables of a database but for the one that a name stands for. -/
def Engine.Catalog.tablesBut (catalog : Catalog) (name : String) (schema : Schema) : List Table :=
  (catalog.tables schema).filter fun table => !catalog.means name schema table

/-- What a run with an answer may do to the tables. -/
structure Frame (spec : Spec) (options : Options) (catalog : Catalog)
    (answer : Except Error Report) (after : Catalog) : Prop where
  dry : options.dryRun = true → SameTables catalog after
  kept : ∀ schema, (catalog.tablesBut spec.target schema).Sublist (after.tables schema)
  failed : ∀ error, answer = .error error → SameTables catalog after ∨
    ∀ schema, after.tables schema = catalog.tablesBut spec.target schema
  created : options.dryRun = false → ∀ report, answer = .ok report →
    after.tables .main = catalog.tablesBut spec.target .main ∧
      ∃ table, after.tables .temp = catalog.tablesBut spec.target .temp ++ [table] ∧
        (∃ qualifier, tableRef? spec.target = some (qualifier, table.name)) ∧
        ∀ other ∈ catalog.tablesBut spec.target .temp, other.isNamed table.name = false

section

variable {spec : Spec} {options : Options} {catalog after : Catalog}

theorem Frame.of_sameTables {answer : Except Error Report} (h : SameTables catalog after)
    (hanswer : options.dryRun = false → ∀ report, answer ≠ .ok report) :
    Frame spec options catalog answer after := by
  refine ⟨fun _ => h, ?_, fun _ _ => .inl h, ?_⟩
  · intro schema
    rw [h.tables_eq]
    exact List.filter_sublist
  · intro hreal report hreport
    exact absurd hreport (hanswer hreal report)

/-- A real run that fails behind the drop leaves what the drop leaves. -/
theorem Frame.of_without (hreal : options.dryRun = false) {error : Error}
    (h : SameTables (catalog.without spec.target) after) :
    Frame spec options catalog (.error error) after := by
  have htables (schema : Schema) :
      after.tables schema = catalog.tablesBut spec.target schema := by
    rw [h.tables_eq, tables_without]
    rfl
  refine ⟨?_, ?_, fun _ _ => .inr htables, ?_⟩
  · intro hdry
    rw [hreal] at hdry
    cases hdry
  · intro schema
    rw [htables]
  · intro _ report hreport
    cases hreport

/-- A real run that succeeds puts a table behind what the drop leaves. -/
theorem Frame.of_add (hreal : options.dryRun = false) {report : Report} {discovered : Catalog}
    {table : Table} (h : SameTables (catalog.without spec.target) discovered)
    (htarget : ∃ qualifier, tableRef? spec.target = some (qualifier, table.name))
    (hnew : discovered.tableIn? .temp table.name = none) :
    Frame spec options catalog (.ok report) (discovered.add .temp table) := by
  have htables (schema : Schema) :
      discovered.tables schema = catalog.tablesBut spec.target schema := by
    rw [h.tables_eq, tables_without]
    rfl
  have hmain : (discovered.add .temp table).tables .main =
      catalog.tablesBut spec.target .main := by
    rw [← htables]
    exact Catalog.tables_setDatabase_of_ne discovered (by decide) _
  have htemp : (discovered.add .temp table).tables .temp =
      catalog.tablesBut spec.target .temp ++ [table] := by
    rw [← htables, Catalog.tables_add]
  have hothers : ∀ other ∈ catalog.tablesBut spec.target .temp,
      other.isNamed table.name = false := by
    intro other hother
    rw [← htables] at hother
    have hnone : (discovered.tables .temp).find? (fun other => other.isNamed table.name) = none :=
      hnew
    simpa using List.find?_eq_none.1 hnone other hother
  refine ⟨?_, ?_, ?_, fun _ _ _ => ⟨hmain, table, htemp, htarget, hothers⟩⟩
  · intro hdry
    rw [hreal] at hdry
    cases hdry
  · intro schema
    cases schema with
    | main => rw [hmain]
    | temp =>
      rw [htemp]
      exact List.sublist_append_left _ _
  · intro error herror
    cases herror

/-- What a run has created has been read and checked as a creation. -/
theorem exists_creates_of_created {dropped discovered : Catalog} {answer} {values : ValueSet}
    {statement : Sql.Statement} (hdrop : dropAnswer spec catalog = (.ok (), dropped))
    (hdiscovery : discoveryAnswer spec dropped = (answer, discovered))
    (hassembled : assembled spec options answer = .ok (values, statement))
    (hcreate : createAnswer statement discovered = (.ok (), after)) :
    ∃ target query table,
      Creates spec statement (discovered.noting statement.sql) target query table ∧
        after = (discovered.noting statement.sql).add .temp table := by
  have hdiscover := discover_of_assembled hdiscovery hassembled
  obtain ⟨-, -, -, hbuild⟩ := assembled_eq_ok hassembled
  obtain ⟨_, target, query, table, -, -, hcreates⟩ := exists_creates hbuild
    (fun _ => isFinite_of_discover hdiscover) (isSome_tableRef?_of_dropTable hdrop)
    (isSome_tableRef?_of_discover hdiscover) (execute_eq_ok_of_store hcreate)
  exact ⟨target, query, table, hcreates⟩

theorem frame_course_real (hreal : options.dryRun = false) :
    Frame spec options catalog (course spec options catalog).1 (course spec options catalog).2 := by
  have hend := realEnd_course spec hreal catalog
  generalize course spec options catalog = last at hend ⊢
  rcases dropTable_cases catalog spec.target with ⟨failure, noted, hdropped, hsame⟩ | hdropped
  · -- nothing happens behind a drop that fails
    cases hend with
    | dropFailed hdrop =>
      obtain ⟨-, rfl⟩ := Prod.mk.inj (hdropped.symm.trans hdrop)
      exact .of_sameTables hsame fun _ _ hreport => nomatch hreport
    | _ hdrop => cases hdropped.symm.trans hdrop
  have hsame := sameTables_discover spec (catalog.without spec.target)
  cases hend with
  | dropFailed hdrop => cases hdropped.symm.trans hdrop
  | unassembled hdrop hdiscovery h =>
    obtain ⟨-, rfl⟩ := Prod.mk.inj (hdropped.symm.trans hdrop)
    obtain ⟨-, rfl⟩ := Prod.mk.inj hdiscovery
    exact .of_without hreal hsame
  | createFailed hdrop hdiscovery hassembled hcreate =>
    obtain ⟨-, rfl⟩ := Prod.mk.inj (hdropped.symm.trans hdrop)
    obtain ⟨-, rfl⟩ := Prod.mk.inj hdiscovery
    obtain rfl := eq_noting_of_store hcreate
    exact .of_without hreal (hsame.trans (sameTables_noting _ _))
  | created hdrop hdiscovery hassembled hcreate =>
    obtain ⟨-, rfl⟩ := Prod.mk.inj (hdropped.symm.trans hdrop)
    obtain ⟨_, _, table, hcreates, rfl⟩ :=
      exists_creates_of_created hdropped hdiscovery hassembled hcreate
    obtain ⟨qualifier, href, -, hnew⟩ := hcreates.exists_name
    obtain ⟨-, rfl⟩ := Prod.mk.inj hdiscovery
    exact .of_add hreal (hsame.trans (sameTables_noting _ _)) ⟨qualifier, href⟩ hnew

end

/-- A dry run leaves all tables alone. A real run leaves all but that of its target alone; if it
fails, it creates nothing, and if it succeeds, there is one new table in `temp`. -/
theorem runSpec_frame (spec : Spec) (options : Options) (catalog : Catalog) :
    Frame spec options catalog ((runSpec spec options).start catalog).1
      ((runSpec spec options).start catalog).2.store := by
  obtain ⟨hanswer, hstore⟩ := (follows_runSpec spec options).start catalog
  rw [hanswer, hstore]
  cases hdry : options.dryRun with
  | true =>
    rw [course_dry spec hdry]
    apply Frame.of_sameTables (sameTables_discover spec catalog)
    intro hreal
    rw [hdry] at hreal
    cases hreal
  | false => exact frame_course_real hdry

end Crosstab

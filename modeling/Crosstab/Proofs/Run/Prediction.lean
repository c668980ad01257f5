import Crosstab.Proofs.Engine.Aspects
import Crosstab.Proofs.Run.Calls

/-!
# What a dry run predicts

A dry run asks the query in the store as it is, a real run behind the drop of its target. All that
comes after the query depends on its answer alone, so the dry run predicts the real one wherever
the drop does not change that answer.

    store ──query──▶ answer ──▶ what a dry run reports
      └─drop──▶ store ──query──▶ answer ──▶ what a real run reports

The engine gives the same answer if the source is not the table that is dropped, nor one of the
engine's own tables that tell about the database from which it is dropped.
-/

namespace Crosstab

open Engine
open Store (Scripted)

/-! ### Predictions -/

/-- The report of a real run is that of a dry run in the same store but for the execution, and the
error of a dry run is that of a real run unless the drop has failed before. -/
structure Predicts {σ : Type} [Store σ] (spec : Spec) (options : Options) (store : σ) : Prop where
  report : ∀ report,
    ((runSpec spec { options with dryRun := false } : Run σ Report).start store).1 = .ok report →
      ((runSpec spec { options with dryRun := true } : Run σ Report).start store).1 =
        .ok { report with executed := false }
  error : ∀ error,
    ((runSpec spec { options with dryRun := true } : Run σ Report).start store).1 = .error error →
      ∃ cause,
        ((runSpec spec { options with dryRun := false } : Run σ Report).start store).1 =
          .error cause ∧
        (cause = error ∨
          ∃ failure, (dropAnswer spec store).1 = .error failure ∧ cause = .store failure)

section

variable {σ : Type} [Store σ] {spec : Spec} {options : Options} {store : σ}

theorem answer_dry (spec : Spec) (options : Options) (store : σ) :
    ((runSpec spec { options with dryRun := true } : Run σ Report).start store).1 =
      (assembled spec options (discoveryAnswer spec store).1).map
        (fun found => Report.on spec { options with dryRun := true } found.1 found.2) := by
  rw [((follows_runSpec spec _).start store).1, course_dry spec rfl]
  rfl

theorem realEnd_runSpec (spec : Spec) (options : Options) (store : σ) : ∃ after,
    RealEnd spec { options with dryRun := false } store
      (((runSpec spec { options with dryRun := false } : Run σ Report).start store).1, after) := by
  refine ⟨(course spec { options with dryRun := false } store).2, ?_⟩
  rw [((follows_runSpec spec { options with dryRun := false }).start store).1]
  exact realEnd_course spec rfl store

/-- A dry run predicts the real one if the query answers the same before and behind the drop. -/
theorem Predicts.of_same_answer
    (h : (dropAnswer spec store).1 = .ok () →
      (discoveryAnswer spec (dropAnswer spec store).2).1 = (discoveryAnswer spec store).1) :
    Predicts spec options store := by
  obtain ⟨after, hend⟩ := realEnd_runSpec spec options store
  generalize hreal : ((runSpec spec { options with dryRun := false } : Run σ Report).start store).1 =
    answer at hend
  -- behind a drop that succeeds, both runs have the same answer to go on with
  have hdry {dropped discovered : σ} {found outcome}
      (hdrop : dropAnswer spec store = (.ok (), dropped))
      (hdiscovery : discoveryAnswer spec dropped = (found, discovered))
      (hassembled : assembled spec options found = outcome) :
      ((runSpec spec { options with dryRun := true } : Run σ Report).start store).1 =
        outcome.map fun made => Report.on spec { options with dryRun := true } made.1 made.2 := by
    rw [hdrop, hdiscovery] at h
    rw [answer_dry, ← h rfl, hassembled]
  constructor
  · intro report hreport
    rw [hreal] at hreport
    cases hend with
    | created hdrop hdiscovery hassembled hcreate =>
      cases hreport
      exact hdry hdrop hdiscovery hassembled
    | _ => cases hreport
  · intro error herror
    cases hend with
    | dropFailed hdrop => exact ⟨_, hreal, .inr ⟨_, by rw [hdrop], rfl⟩⟩
    | unassembled hdrop hdiscovery hassembled =>
      cases herror.symm.trans (hdry hdrop hdiscovery hassembled)
      exact ⟨_, hreal, .inl rfl⟩
    | createFailed hdrop hdiscovery hassembled hcreate =>
      cases herror.symm.trans (hdry hdrop hdiscovery hassembled)
    | created hdrop hdiscovery hassembled hcreate =>
      cases herror.symm.trans (hdry hdrop hdiscovery hassembled)

end

/-! ### Sources that a drop leaves alone -/

/-- The source is not the table that the target stands for. -/
def SourceIsOther (spec : Spec) (catalog : Catalog) : Prop :=
  ∀ schema table, catalog.found? spec.source = some (.stored schema table) →
    catalog.means spec.target schema table = false

/-- The source tells nothing about the database in which the target is found. -/
def SourceIsSilent (spec : Spec) (catalog : Catalog) : Prop :=
  ∀ found schema own, catalog.found? spec.source = some found →
    catalog.holder? spec.target = some (schema, own) →
      ∀ aspect ∈ found.aspects false, aspect.schema? ≠ some schema

section

variable {spec : Spec} {catalog : Catalog}

theorem database_without {target : String} {schema : Schema}
    (h : ∀ own, catalog.holder? target ≠ some (schema, own)) :
    (catalog.without target).database schema = catalog.database schema := by
  unfold Catalog.without
  rcases hholder : catalog.holder? target with _ | ⟨holder, own⟩
  · rfl
  · have hne : holder ≠ schema := by
      rintro rfl
      exact h own hholder
    cases schema <;> cases holder <;> first | rfl | exact absurd rfl hne

theorem discoveryAnswer_without (hother : SourceIsOther spec catalog)
    (hsilent : SourceIsSilent spec catalog) :
    (discoveryAnswer spec (catalog.without spec.target)).1 = (discoveryAnswer spec catalog).1 := by
  obtain ⟨hmedium, hopen, hmodules⟩ := medium_without catalog spec.target
  have hfound := found?_without hother
  show query (Sql.discoverySql spec) ((catalog.without spec.target).noting _) =
    query (Sql.discoverySql spec) (catalog.noting _)
  apply query_discovery_congr
  · rw [(sameTables_noting _ _).state_eq, (sameTables_noting _ _).state_eq, Catalog.state, hmedium,
      Catalog.state]
  · intro operand written behind hread
    obtain ⟨_, hrefers, _, -, hcommand⟩ := read_discoverySql hread
    cases hcommand
    rw [noting_discoverySql hread hrefers, noting_discoverySql hread hrefers]
    have htables (catalog : Catalog) :
        ((catalog.lookingUp spec.source).found? spec.source).map Found.anonymous =
          (catalog.found? spec.source).map Found.anonymous :=
      anonymous_found? (sameTables_lookingUp catalog spec.source).tableIn?_eq
    apply findSource_congr hrefers
    · rw [htables, htables, hfound]
    · intro found hfound' aspect haspect
      obtain ⟨source, hsource, hanonymous⟩ := exists_found_of_anonymous (htables catalog) hfound'
      rw [← aspects_anonymous, ← hanonymous, aspects_anonymous] at haspect
      have hdatabase (schema : Schema) (hschema : aspect.schema? = some schema) :
          (catalog.without spec.target).database schema = catalog.database schema :=
        database_without fun own hholder =>
          hsilent source schema own hsource hholder aspect haspect hschema
      cases aspect with
      | entries schema =>
        have hkept := hdatabase schema rfl
        show ((catalog.without spec.target).database schema).entries = _
        rw [hkept]
        rfl
      | whole schema => exact hdatabase schema rfl
      | medium => exact hmedium
      | opening =>
        show ((catalog.without spec.target).tempIsOpen || _) = (catalog.tempIsOpen || _)
        rw [hopen, hfound]
      | modules =>
        show ((catalog.without spec.target).lookingUp spec.source).modules = _
        rw [Catalog.lookingUp, hfound, hmodules]
        rfl

theorem discoveryAnswer_dropAnswer (hother : SourceIsOther spec catalog)
    (hsilent : SourceIsSilent spec catalog) (hdrop : (dropAnswer spec catalog).1 = .ok ()) :
    (discoveryAnswer spec (dropAnswer spec catalog).2).1 = (discoveryAnswer spec catalog).1 := by
  have hdropped : dropAnswer spec catalog = (.ok (), (dropAnswer spec catalog).2) :=
    Prod.ext hdrop rfl
  rw [eq_without_of_dropTable hdropped]
  exact discoveryAnswer_without hother hsilent

end

/-- A dry run predicts the real one in every store whose answer to the query the drop does not
change. The engine is such a store if the source is not the table that the target stands for, and
none of the engine's own tables that tell about the database of that table. -/
theorem runSpec_predicts (spec : Spec) (options : Options) :
    (∀ (σ : Type) [Store σ] (store : σ), ((dropAnswer spec store).1 = .ok () →
        (discoveryAnswer spec (dropAnswer spec store).2).1 = (discoveryAnswer spec store).1) →
      Predicts spec options store) ∧
    ∀ catalog : Catalog, SourceIsOther spec catalog → SourceIsSilent spec catalog →
      Predicts spec options catalog := by
  refine ⟨fun σ _ store h => .of_same_answer h, ?_⟩
  intro catalog hother hsilent
  exact .of_same_answer (discoveryAnswer_dropAnswer hother hsilent)

/-- Two tables of `main`. -/
def twoTables : Catalog := (Catalog.empty.add .main notes).add .main amounts

/-- The one is to be replaced by what is made of the other. -/
def amountsByKind : Spec := ⟨"t", "s", "id", "k", "amt"⟩

/-- The one is to be replaced by what is made of the list of both. -/
def tablesByName : Spec := ⟨"t", "sqlite_master", "type", "name", "rootpage"⟩

theorem sourceIsOther_amountsByKind : SourceIsOther amountsByKind twoTables := by
  have hsource : twoTables.found? "s" = some (.stored .main amounts) := rfl
  intro schema table hfound
  cases hsource.symm.trans hfound
  decide

/-- The predictions hold of a store that answers everything with nothing, and of a run that
replaces one of two tables. -/
theorem runSpec_predicts_amountsByKind :
    Predicts amountsByKind .default (⟨[], []⟩ : Scripted) ∧
      SourceIsOther amountsByKind twoTables ∧ SourceIsSilent amountsByKind twoTables ∧
      ∃ report, ((runSpec amountsByKind .default : Run Catalog Report).start twoTables).1 =
          .ok report ∧ report.values.values = [.text "A"] ∧
        ((runSpec amountsByKind { Options.default with dryRun := true }).start twoTables).1 =
          .ok { report with executed := false } := by
  have hother := sourceIsOther_amountsByKind
  have hsilent : SourceIsSilent amountsByKind twoTables := by
    have hsource : twoTables.found? "s" = some (.stored .main amounts) := rfl
    intro found schema own hfound _ aspect haspect
    cases hsource.symm.trans hfound
    cases haspect
  have hreported : reported amountsByKind .default twoTables = some (["A"], [.text "A"], 0) := by
    decide +kernel
  obtain ⟨report, hrun, -, hvalues, -⟩ := exists_of_reported hreported
  have hpredicts := (runSpec_predicts amountsByKind .default).2 twoTables hother hsilent
  exact ⟨(runSpec_predicts amountsByKind .default).1 Scripted ⟨[], []⟩ fun _ => rfl, hother,
    hsilent, report, hrun, hvalues, hpredicts.report report hrun⟩

/-- The list of the tables of `main` is no table that can be dropped, but it shows one table less
behind the drop, so a dry run finds a value more than the real one. -/
theorem dryRun_lists_target : SourceIsOther tablesByName twoTables ∧
    reported tablesByName .default twoTables = some (["s"], [.text "s"], 0) ∧
    reported tablesByName { Options.default with dryRun := true } twoTables =
      some (["t", "s"], [.text "t", .text "s"], 0) ∧
    ¬ Predicts tablesByName .default twoTables := by
  have hother : SourceIsOther tablesByName twoTables := by
    have hsource : twoTables.found? "sqlite_master" = some (.schemaTable .main) := rfl
    intro schema table hfound
    cases hsource.symm.trans hfound
  have hreal : reported tablesByName .default twoTables = some (["s"], [.text "s"], 0) := by
    decide +kernel
  have hdry : reported tablesByName { Options.default with dryRun := true } twoTables =
      some (["t", "s"], [.text "t", .text "s"], 0) := by decide +kernel
  refine ⟨hother, hreal, hdry, fun hpredicts => ?_⟩
  obtain ⟨report, hrun, hcolumns, -⟩ := exists_of_reported hreal
  obtain ⟨other, hrun', hcolumns', -⟩ := exists_of_reported hdry
  cases hrun'.symm.trans (hpredicts.report report hrun)
  have hsame : ["t", "s"] = ["s"] := hcolumns'.symm.trans hcolumns
  simp at hsame

end Crosstab

import Crosstab.Proofs.Engine.Execution
import Crosstab.Proofs.Run.Course

/-!
# What a run leaves of the tables of `main`

A run asks for a temporary table, but the drop in front looks the target up in `temp` and then in
`main`, or in the database that the name gives. So a run leaves `main` as it is exactly if the
target is not found there, and takes the table that is found there away otherwise, whatever comes
of the run.

    drop ──▶ query ──▶ creation
    `main` loses a table    nothing changes    `temp` gets a table
-/

namespace Crosstab.Engine

open Crosstab.Run (andThen ofCall)

/-! ### Drops -/

/-- What a name finds apart from the created tables may not be dropped. -/
theorem planDrop_of_resolve {catalog : Catalog} {name : TableName}
    (h : catalog.resolve? name.qualifierText name.table.text = none) {plan : Plan}
    (hplan : planDrop catalog name = .ok plan) : plan = .idle := by
  unfold planDrop at hplan
  split at hplan
  · exact (Except.ok.inj hplan).symm
  · next hfind =>
    rcases Catalog.find?_cases hfind with ⟨_, _, -, hfound, -⟩ | ⟨_, hother⟩ | ⟨_, _, hother, -⟩
    · rw [h] at hfound
      cases hfound
    · cases hother
    · cases hother
  · cases hplan
  · cases hplan

/-- Dropping a target takes the table of a name out of a database. -/
structure Drops (catalog : Catalog) (target : String) (schema : Schema) (name : String) :
    Prop where
  isWhole : IsWhole target.toList
  /-- The target is a name, perhaps behind that of a database, and is found there. -/
  found : ∃ qualifier, tableRef? target = some (qualifier, name) ∧
    catalog.resolve? qualifier name = some schema
  isUsable : catalog.state.isUsable = true
  isWritable : schema = .main → catalog.state ≠ .readOnly

section

variable {catalog : Catalog} {target : String}

/-- The text that drops a target. -/
abbrev dropText (target : String) : String := Sql.dropSql (Sql.quoteTable target)

theorem target?_dropText (target : String) : Command.target? (dropText target) = none := by
  have htext : (dropText target).toList =
      "DROP".toList ++ ' ' :: ("TABLE IF EXISTS ".toList ++ (Sql.quoteTable target).toList) := by
    rw [dropText, Sql.toList_dropSql]
    rfl
  exact target?_eq_none (scanned_readPart (by decide) (by decide) htext) (by decide)

theorem targetIsFree_dropText (catalog : Catalog) (target : String) :
    TargetIsFree catalog (dropText target) := by
  intro other hother
  rw [target?_dropText] at hother
  cases hother

/-- A drop that succeeds has been read as one of its target. -/
theorem execute_dropText {after : Catalog} (h : execute (dropText target) catalog = .ok after) :
    IsWhole target.toList ∧ catalog.state.isUsable = true ∧ ∃ table : TableName,
      table.Refers target ∧ ∃ plan, planDrop catalog table = .ok plan ∧
        plan.perform catalog = .ok after := by
  have hwhole := isWhole_of_execute h
  obtain ⟨plan, hprepare, hperform⟩ := execute_eq_ok_iff.1 h
  obtain ⟨-, command, hread, hcheck⟩ := prepare_eq_ok_iff.1 hprepare
  have hcommand : ∃ table : TableName, table.Refers target ∧ command = .drop table :=
    (read_of_takes hwhole (p := fun command => ∃ table : TableName, table.Refers target ∧
      command = .drop table) (takes_dropSql target) hread).1
  obtain ⟨table, hrefers, rfl⟩ := hcommand
  have hname : IsWhole target.toList := by
    rw [dropText, Sql.toList_dropSql, isWhole_append, isWhole_quoteTable] at hwhole
    exact hwhole.2
  obtain ⟨husable, hplan⟩ := check_drop_eq_ok_iff.1 hcheck
  exact ⟨hname, husable, table, hrefers, plan, hplan, hperform⟩

/-- A target that has been dropped is a name, perhaps behind that of a database. -/
theorem isSome_tableRef?_of_dropTable {after : Catalog}
    (h : Store.dropTable (Sql.quoteTable target) catalog = (.ok (), after)) :
    (tableRef? target).isSome = true := by
  obtain ⟨-, -, table, hrefers, -⟩ := execute_dropText (execute_eq_ok_of_store h)
  rw [hrefers]
  rfl

/-- A target that is found is dropped. -/
theorem Drops.execute {schema : Schema} {name : String} (h : Drops catalog target schema name) :
    ∃ table ∈ catalog.tables schema, table.isNamed name = true ∧
      execute (dropText target) catalog = .ok (catalog.drop schema table.name) := by
  obtain ⟨qualifier, href, hresolve⟩ := h.found
  obtain ⟨table, htable, hfind⟩ := Catalog.find?_of_resolve hresolve
  obtain ⟨hmem, hnamed⟩ := Catalog.tableIn?_eq_some htable
  obtain ⟨written, hread, hrefers⟩ := read_dropSql h.isWhole (by rw [href]; rfl)
  rw [TableName.Refers, href, Option.some_inj, Prod.mk.injEq] at hrefers
  have hplan : planDrop catalog written = .ok (.drop schema table.name) := by
    rw [planDrop, ← hrefers.1, ← hrefers.2, hfind]
  have hperform : (Plan.drop schema table.name).perform catalog =
      .ok (catalog.drop schema table.name) := by
    unfold Plan.perform
    exact if_neg fun hreadOnly => h.isWritable hreadOnly.1 hreadOnly.2
  have hprepare := prepare_eq_ok_iff.2 ⟨targetIsFree_dropText catalog target, _, hread,
    check_drop_eq_ok_iff.2 ⟨h.isUsable, hplan⟩⟩
  exact ⟨table, hmem, hnamed, execute_eq_ok_iff.2 ⟨_, hprepare, hperform⟩⟩

/-- A drop that changes something has found its target. -/
theorem drops_of_execute {after : Catalog} (h : execute (dropText target) catalog = .ok after) :
    after = catalog ∨ ∃ schema name, Drops catalog target schema name := by
  obtain ⟨hwhole, husable, table, hrefers, plan, hplan, hperform⟩ := execute_dropText h
  rcases hresolve : catalog.resolve? table.qualifierText table.table.text with _ | schema
  · obtain rfl := planDrop_of_resolve hresolve hplan
    exact .inl (Except.ok.inj hperform).symm
  · refine .inr ⟨schema, table.table.text, hwhole, ⟨_, hrefers, hresolve⟩, husable, ?_⟩
    obtain ⟨found, -, hfind⟩ := Catalog.find?_of_resolve hresolve
    rw [planDrop, hfind] at hplan
    obtain rfl := Except.ok.inj hplan
    rintro hmain hreadOnly
    rw [Plan.perform, if_pos ⟨hmain, hreadOnly⟩] at hperform
    cases hperform

theorem Drops.of_sameTables {noted : Catalog} (hsame : SameTables catalog noted) {schema : Schema}
    {name : String} : Drops noted target schema name ↔ Drops catalog target schema name := by
  constructor
  · rintro ⟨hwhole, ⟨qualifier, href, hresolve⟩, husable, hwritable⟩
    rw [hsame.resolve?_eq] at hresolve
    rw [hsame.state_eq] at husable hwritable
    exact ⟨hwhole, ⟨qualifier, href, hresolve⟩, husable, hwritable⟩
  · rintro ⟨hwhole, ⟨qualifier, href, hresolve⟩, husable, hwritable⟩
    rw [← hsame.resolve?_eq] at hresolve
    rw [← hsame.state_eq] at husable hwritable
    exact ⟨hwhole, ⟨qualifier, href, hresolve⟩, husable, hwritable⟩

/-- What the store loses to a drop. -/
theorem dropTable_of_drops {schema : Schema} {name : String}
    (h : Drops catalog target schema name) :
    (Store.dropTable (Sql.quoteTable target) catalog).2.tables schema =
        (catalog.tables schema).filter (fun table => !table.isNamed name) ∧
      ∀ other ≠ schema, (Store.dropTable (Sql.quoteTable target) catalog).2.tables other =
        catalog.tables other := by
  have hsame := sameTables_noting catalog (dropText target)
  obtain ⟨table, -, hnamed, hexecute⟩ := ((Drops.of_sameTables hsame).2 h).execute
  have hstore : (Store.dropTable (Sql.quoteTable target) catalog).2 =
      (catalog.noting (dropText target)).drop schema table.name := by
    rw [Store.dropTable, store_execute, hexecute]
  rw [hstore, Catalog.tables_drop, hsame.tables_eq]
  refine ⟨?_, fun other hother => ?_⟩
  · simp only [Table.isNamed_eq hnamed]
  · rw [Catalog.drop, Catalog.tables_setDatabase_of_ne _ hother, hsame.tables_eq]

/-- A drop that does not find its target changes no table. -/
theorem dropTable_of_not_drops (h : ∀ schema name, ¬ Drops catalog target schema name) :
    SameTables catalog (Store.dropTable (Sql.quoteTable target) catalog).2 := by
  have hsame := sameTables_noting catalog (dropText target)
  rw [Store.dropTable, store_execute]
  rcases hexecute : execute (dropText target) (catalog.noting (dropText target)) with
    cause | after
  · exact hsame
  · rcases drops_of_execute hexecute with rfl | ⟨schema, name, hdrops⟩
    · exact hsame
    · exact absurd ((Drops.of_sameTables hsame).1 hdrops) (h schema name)

end

/-! ### Queries and creations -/

theorem sameTables_discover (spec : Spec) (catalog : Catalog) :
    SameTables catalog (Store.discover spec catalog).2 :=
  sameTables_noting catalog (Sql.discoverySql spec)

/-- What a checked creation does is to add a table to `temp`. -/
theorem tables_main_of_perform {catalog after : Catalog} {sql : String} {target : TableName}
    {query : PivotQuery} {plan : Plan}
    (hcheck : check catalog sql (.createPivot target query) = .ok plan)
    (hperform : plan.perform catalog = .ok after) : after.tables .main = catalog.tables .main := by
  obtain ⟨relation, -, table, -, rfl⟩ := check_createPivot_eq_ok hcheck
  unfold Plan.reading at hperform
  split at hperform
  · cases hperform
  · cases hperform
    exact Catalog.tables_setDatabase_of_ne catalog (by decide) _

theorem tables_main_create {spec : Spec} {options : Options} {values : ValueSet}
    {statement : Sql.Statement}
    (h : Sql.build spec options.dialect options.naming values = .ok statement) (catalog : Catalog) :
    (Store.execute statement.sql catalog).2.tables .main = catalog.tables .main := by
  have hsame := sameTables_noting catalog statement.sql
  rw [store_execute]
  rcases hexecute : execute statement.sql (catalog.noting statement.sql) with cause | after
  · exact hsame.tables_eq .main
  · obtain ⟨plan, hprepare, hperform⟩ := execute_eq_ok_iff.1 hexecute
    obtain ⟨-, command, hread, hcheck⟩ := prepare_eq_ok_iff.1 hprepare
    obtain ⟨rest, htext⟩ := Sql.exists_toList_sql h
    obtain ⟨target, query, rfl, -⟩ :=
      read_eq_ok_of_create (scanned_readPart (by decide) (by decide) htext) hread
    exact (tables_main_of_perform hcheck hperform).trans (hsame.tables_eq .main)

/-! ### Runs -/

/-- A run of a directive takes the table of a name out of `main`. -/
def LosesTable (text : String) (options : Options) (catalog : Catalog) (name : String) : Prop :=
  ∃ directive, Directive.parse text = .ok directive ∧ options.dryRun = false ∧
    Drops catalog directive.spec.target .main name

/-- What holds of the store behind the first steps and is kept by the others holds behind all. -/
theorem andThen_store {α β : Type} {first : Catalog → Except Error α × Catalog}
    {next : α → Catalog → Except Error β × Catalog} {p : Catalog → Prop} {catalog : Catalog}
    (hfirst : p (first catalog).2) (hnext : ∀ value middle, p middle → p (next value middle).2) :
    p (andThen first next catalog).2 := by
  unfold andThen
  rcases hanswer : first catalog with ⟨cause | value, middle⟩
  · rw [hanswer] at hfirst
    exact hfirst
  · rw [hanswer] at hfirst
    exact hnext value middle hfirst

/-- Behind the drop, a run leaves `main` alone. -/
theorem tables_main_course (spec : Spec) (options : Options) (catalog : Catalog) :
    (course spec options catalog).2.tables .main =
      (dropped spec options catalog).2.tables .main := by
  -- neither the query nor the creation touches `main`
  refine andThen_store (p := fun after => after.tables .main = _) rfl fun _ middle hmiddle => ?_
  refine andThen_store (p := fun after => after.tables .main = _) ?_ fun values middle hmiddle => ?_
  · exact ((sameTables_discover spec middle).tables_eq .main).trans hmiddle
  unfold andThen built
  rcases hbuild : Sql.build spec options.dialect options.naming values with cause | statement
  · exact hmiddle
  refine andThen_store (p := fun after => after.tables .main = _) ?_ fun _ _ h => h
  cases hdry : options.dryRun with
  | true =>
    rw [ofCall, created_of_dry hdry]
    exact hmiddle
  | false =>
    rw [ofCall, created_of_real hdry]
    exact (tables_main_create hbuild middle).trans hmiddle

theorem tables_main_directiveCourse {text : String} {directive : Directive}
    (h : Directive.parse text = .ok directive) (options : Options) (catalog : Catalog) :
    (directiveCourse text options catalog).2.tables .main =
      (dropped directive.spec options catalog).2.tables .main := by
  unfold directiveCourse
  rw [h]
  exact andThen_store (p := fun after => after.tables .main = _)
    (tables_main_course directive.spec options catalog) fun _ _ h => h

section

variable {text : String} {options : Options} {catalog : Catalog}

theorem tables_main_of_losesTable {name : String} (h : LosesTable text options catalog name) :
    ((runDirective text options).start catalog).2.store.tables .main =
      (catalog.tables .main).filter fun table => !table.isNamed name := by
  obtain ⟨directive, hparse, hreal, hdrops⟩ := h
  rw [((follows_runDirective text options).start catalog).2,
    tables_main_directiveCourse hparse, dropped_of_real hreal]
  exact (dropTable_of_drops hdrops).1

theorem tables_main_of_not_losesTable (h : ∀ name, ¬ LosesTable text options catalog name) :
    ((runDirective text options).start catalog).2.store.tables .main = catalog.tables .main := by
  rw [((follows_runDirective text options).start catalog).2]
  cases hparse : Directive.parse text with
  | error cause =>
    unfold directiveCourse
    rw [hparse]
    cases cause <;> rfl
  | ok directive =>
    rw [tables_main_directiveCourse hparse]
    cases hdry : options.dryRun with
    | true => rw [dropped_of_dry hdry]
    | false =>
      rw [dropped_of_real hdry]
      -- what is dropped, if anything, is a table of `temp`
      by_cases hdrops : ∃ schema name, Drops catalog directive.spec.target schema name
      · obtain ⟨schema, name, hdrops⟩ := hdrops
        have hne : Schema.main ≠ schema := by
          rintro rfl
          exact h name ⟨directive, hparse, hdry, hdrops⟩
        exact (dropTable_of_drops hdrops).2 .main hne
      · have hnone : ∀ schema name, ¬ Drops catalog directive.spec.target schema name :=
          fun schema name hdrops' => hdrops ⟨schema, name, hdrops'⟩
        exact (dropTable_of_not_drops hnone).tables_eq .main

/-- A table that a run takes away has been there. -/
theorem LosesTable.exists_table {name : String} (h : LosesTable text options catalog name) :
    ∃ table ∈ catalog.tables .main, table.isNamed name = true := by
  obtain ⟨-, -, -, -, ⟨qualifier, -, hresolve⟩, -, -⟩ := h
  obtain ⟨table, htable, -⟩ := Catalog.find?_of_resolve hresolve
  exact ⟨table, Catalog.tableIn?_eq_some htable⟩

end

/-- A run leaves the tables of `main` alone exactly if it does not find its target there, and
otherwise takes the table of that name away, whatever comes of the run. -/
theorem runDirective_tables_main (text : String) (options : Options) (catalog : Catalog) :
    (((runDirective text options).start catalog).2.store.tables .main = catalog.tables .main ↔
        ∀ name, ¬ LosesTable text options catalog name) ∧
      ∀ name, LosesTable text options catalog name →
        ((runDirective text options).start catalog).2.store.tables .main =
          (catalog.tables .main).filter fun table => !table.isNamed name := by
  refine ⟨⟨fun hkept name hloses => ?_, tables_main_of_not_losesTable⟩,
    fun name hloses => tables_main_of_losesTable hloses⟩
  obtain ⟨table, hmem, hnamed⟩ := hloses.exists_table
  rw [tables_main_of_losesTable hloses, List.filter_eq_self] at hkept
  have hfalse := hkept table hmem
  rw [hnamed] at hfalse
  cases hfalse

/-- A table that is to last. -/
def notes : Table := ⟨"t", ["id", "note"].map Column.plain, [[.integer 1, .ofText "kept"]]⟩

/-- A table to be cross-tabulated. -/
def amounts : Table :=
  ⟨"s", ["id", "k", "amt"].map Column.plain, [[.integer 1, .ofText "A", .integer 10]]⟩

/-- A run whose target is called as a table of `main` takes that table away. -/
theorem runDirective_loses_notes :
    ((Catalog.empty.add .main notes).add .main amounts).tables .main = [notes, amounts] ∧
      ((runDirective "table t from s row id col k val amt" .default).start
        ((Catalog.empty.add .main notes).add .main amounts)).2.store.tables .main = [amounts] := by
  have hloses : LosesTable "table t from s row id col k val amt" .default
      ((Catalog.empty.add .main notes).add .main amounts) "t" :=
    ⟨⟨⟨"t", "s", "id", "k", "amt"⟩, []⟩, by decide +kernel, rfl,
      ⟨by simp [IsWhole], ⟨none, by decide, by decide⟩, rfl, by decide⟩⟩
  refine ⟨rfl, ?_⟩
  rw [tables_main_of_losesTable hloses]
  decide

end Crosstab.Engine

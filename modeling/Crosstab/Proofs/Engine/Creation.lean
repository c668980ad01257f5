import Crosstab.Proofs.Engine.Execution
import Crosstab.Proofs.Engine.PivotTable

/-!
# Creations

What the statement of a run leaves in the catalog if it is executed: the target names the table
that the query computes, because nothing in `temp` went by that name before.
-/

namespace Crosstab.Engine

open Sql (Token)

/-- A target that is checked is one of `temp` and not yet there. -/
theorem checkTarget_eq_ok {catalog : Catalog} {sql : String} {target : TableName}
    (h : checkTarget catalog sql target = .ok ()) :
    (∃ others, Catalog.searched target.qualifierText = .temp :: others) ∧
      catalog.tableIn? .temp target.table.text = none := by
  -- the checks behind that of the database, the same for every way to name it
  have hrest : (if isReservedName target.table.text then throw (.reservedName target.table.text)
      else do
        checkFile catalog
        if (catalog.tableIn? .temp target.table.text).isSome then
          throw (.input (.tableExists target.table.lexeme.written) sql
            (offsetIn sql target.table.lexeme))
        else pure () : Except EngineError Unit) = .ok () →
      catalog.tableIn? .temp target.table.text = none := by
    intro hrest
    split at hrest
    · cases hrest
    obtain ⟨-, -, hnew⟩ := bind_eq_ok_iff.1 hrest
    split at hnew
    · cases hnew
    · next hnone => simpa using hnone
  unfold checkTarget at h
  rcases hqualifier : target.qualifier with _ | qualifier
  · rw [hqualifier] at h
    refine ⟨⟨[.main], by rw [TableName.qualifierText, hqualifier]; rfl⟩, hrest h⟩
  · rw [hqualifier] at h
    dsimp only at h
    rcases hschema : Schema.ofName? qualifier.text with _ | schema
    · rw [hschema] at h
      cases h
    · rw [hschema] at h
      cases schema with
      | main => cases h
      | temp =>
        refine ⟨⟨[], ?_⟩, hrest h⟩
        rw [TableName.qualifierText, hqualifier, Option.map_some, Catalog.searched, hschema]
        rfl

section

variable {catalog : Catalog} {qualifier : Option String} {table : Table}

theorem tableIn?_add (hnew : catalog.tableIn? .temp table.name = none) :
    (catalog.add .temp table).tableIn? .temp table.name = some table := by
  have hnone : (catalog.tables .temp).find? (fun other => other.isNamed table.name) = none := hnew
  have hnamed : table.isNamed table.name = true := sameButCase_refl table.name
  show ((catalog.add .temp table).tables .temp).find? (fun other => other.isNamed table.name) =
    some table
  rw [Catalog.tables_add, List.find?_append, hnone, Option.none_or]
  exact List.find?_cons_of_pos hnamed

theorem resolve?_add (hsearched : ∃ others, Catalog.searched qualifier = .temp :: others)
    (hnew : catalog.tableIn? .temp table.name = none) :
    (catalog.add .temp table).resolve? qualifier table.name = some .temp := by
  obtain ⟨others, hsearched⟩ := hsearched
  unfold Catalog.resolve?
  rw [hsearched, List.find?_cons_of_pos (by rw [tableIn?_add hnew]; rfl)]

theorem table?_add (hsearched : ∃ others, Catalog.searched qualifier = .temp :: others)
    (hnew : catalog.tableIn? .temp table.name = none) :
    (catalog.add .temp table).table? qualifier table.name = some table := by
  rw [Catalog.table?, resolve?_add hsearched hnew, Option.bind_some, tableIn?_add hnew]

end

section

variable {spec : Spec} {dialect : Sql.Dialect} {naming : Sql.ColumnNaming} {values : ValueSet}
  {statement : Sql.Statement} {catalog after : Catalog} {source : Table} {axes : Axes}

/-- The engine reads the literals of values back cell by cell. -/
theorem map_literalCell {values : List Value} {literals : List Token}
    (h : List.Forall₂ Sql.LiteralToken values literals) :
    literals.map literalCell = values.map Value.readBack := by
  induction h with
  | nil => rfl
  | cons htoken _ ih => rw [List.map_cons, List.map_cons, ih, Value.readBack_eq htoken]

/-- A statement has been read and checked as one that creates a table. -/
structure Creates (spec : Spec) (statement : Sql.Statement) (catalog : Catalog)
    (target : TableName) (query : PivotQuery) (table : Table) : Prop where
  read : Command.read statement.sql = .ok (.createPivot target query, [])
  target?_eq : Command.target? statement.sql = some target
  refers : target.Refers spec.target
  source : query.source.Refers spec.source
  isFree : checkTarget catalog statement.sql target = .ok ()
  isUsable : catalog.state.isUsable = true
  made : ∃ relation, findSource catalog true query.source = .ok relation ∧ relation.fault = none ∧
    pivotTable statement.sql target.table.text query relation = .ok table

theorem perform_reading_create {relation : Relation} {table : Table}
    (h : (Plan.reading relation (.create table)).perform catalog = .ok after) :
    relation.fault = none ∧ after = catalog.add .temp table := by
  unfold Plan.reading at h
  split at h
  · cases h
  · next hfault => exact ⟨hfault, (Except.ok.inj h).symm⟩

/-- What is executed has been read from the tokens of the template, so it creates a pivot table. -/
theorem exists_creates (hbuild : Sql.build spec dialect naming values = .ok statement)
    (hfinite : ∀ x, Value.real x ∈ values.values → x.isFinite = true)
    (htarget : (tableRef? spec.target).isSome = true)
    (hsource : (tableRef? spec.source).isSome = true)
    (h : execute statement.sql catalog = .ok after) :
    ∃ literals target query table,
      List.Forall₂ Sql.LiteralToken values.values literals ∧
      query.Asks spec literals statement.columns ∧
      Creates spec statement catalog target query table ∧ after = catalog.add .temp table := by
  have hwhole := isWhole_of_execute h
  obtain ⟨literals, hliterals, htokens⟩ := Sql.scanned_sql hbuild hfinite
  have hlength : statement.columns.length = literals.length := by
    rw [(Sql.claimed_of_build hbuild).length_eq, hliterals.length_eq]
  have hvalues := Sql.exists_value?_of_literalTokens hliterals
  obtain ⟨plan, hprepare, hperform⟩ := execute_eq_ok_iff.1 h
  obtain ⟨hfree, command, hread, hcheck⟩ := prepare_eq_ok_iff.1 hprepare
  have htakes := @Reader.takes_create spec naming literals statement.columns dialect htarget
    hsource hvalues hlength
  rw [← htokens] at htakes
  obtain ⟨target, query, rfl, hrefers, hasks⟩ := (read_of_takes hwhole (p := fun command =>
    ∃ target query, command = .createPivot target query ∧ target.Refers spec.target ∧
      query.Asks spec literals statement.columns) htakes hread).1
  obtain ⟨rest, htext⟩ := Sql.exists_toList_sql hbuild
  obtain ⟨_, _, hcommand, hknown⟩ :=
    read_eq_ok_of_create (scanned_readPart (by decide) (by decide) htext) hread
  cases hcommand
  have husable : catalog.state.isUsable = true := by
    unfold check at hcheck
    obtain ⟨⟨⟩, hfile, -⟩ := bind_eq_ok_iff.1 hcheck
    exact checkFile_eq_ok_iff.1 hfile
  obtain ⟨relation, hrelation, table, htable, rfl⟩ := check_createPivot_eq_ok hcheck
  obtain ⟨hfault, hafter⟩ := perform_reading_create hperform
  exact ⟨literals, target, query, table, hliterals, hasks,
    ⟨hread, hknown, hrefers, hasks.source, hfree _ hknown, husable,
      ⟨relation, hrelation, hfault, htable⟩⟩, hafter⟩

/-- An executed statement leaves the table of its literals under the name of the target. -/
theorem named?_of_execute (hbuild : Sql.build spec dialect naming values = .ok statement)
    (hfinite : ∀ x, Value.real x ∈ values.values → x.isFinite = true)
    (htarget : (tableRef? spec.target).isSome = true)
    (hsource : catalog.named? spec.source = some source) (haxes : axes.Of spec source)
    (h : execute statement.sql catalog = .ok after) :
    ∃ name, after.named? spec.target = some
      (crossTable name source axes (values.values.map Value.readBack) statement.columns) := by
  have hsourceRef : (tableRef? spec.source).isSome = true := by
    obtain ⟨ref, href, -⟩ := Option.bind_eq_some_iff.1 hsource
    rw [href]
    rfl
  obtain ⟨literals, target, query, table, hliterals, hasks, hcreates, rfl⟩ :=
    exists_creates hbuild hfinite htarget hsourceRef h
  have hlength : statement.columns.length = literals.length := by
    rw [(Sql.claimed_of_build hbuild).length_eq, hliterals.length_eq]
  obtain ⟨relation, hrelation, -, htable⟩ := hcreates.made
  rw [findSource_of_named hsource hasks.source] at hrelation
  obtain rfl := Except.ok.inj hrelation
  obtain rfl := pivotTable_eq haxes hasks hlength htable
  rw [map_literalCell hliterals]
  obtain ⟨hsearched, hnew⟩ := checkTarget_eq_ok hcreates.isFree
  refine ⟨target.table.text, ?_⟩
  rw [Catalog.named?, hcreates.refers, Option.bind_some]
  exact table?_add hsearched hnew

end

/-! ### What a creation depends on -/

theorem name_pivotTable {sql name : String} {query : PivotQuery} {relation : Relation}
    {table : Table} (h : pivotTable sql name query relation = .ok table) : table.name = name := by
  unfold pivotTable at h
  split at h
  · cases h
  obtain ⟨key, -, h⟩ := bind_eq_ok_iff.1 h
  obtain ⟨picks, -, h⟩ := bind_eq_ok_iff.1 h
  obtain ⟨group, -, h⟩ := bind_eq_ok_iff.1 h
  cases h
  rfl

theorem checkTarget_congr {catalog other : Catalog} (hstate : other.state = catalog.state)
    (htemp : ∀ own, other.tableIn? .temp own = catalog.tableIn? .temp own) (sql : String)
    (target : TableName) : checkTarget other sql target = checkTarget catalog sql target := by
  simp only [checkTarget, checkFile, hstate, htemp]

namespace Creates

variable {spec : Spec} {statement : Sql.Statement} {catalog : Catalog} {target : TableName}
  {query : PivotQuery} {table : Table}

theorem execute (h : Creates spec statement catalog target query table) :
    Engine.execute statement.sql catalog = .ok (catalog.add .temp table) := by
  obtain ⟨relation, hrelation, hfault, htable⟩ := h.made
  have hcheck : check catalog statement.sql (.createPivot target query) = .ok (.create table) := by
    unfold check
    refine bind_eq_ok_iff.2 ⟨(), checkFile_eq_ok_iff.2 h.isUsable, ?_⟩
    refine bind_eq_ok_iff.2 ⟨relation, hrelation, ?_⟩
    refine bind_eq_ok_iff.2 ⟨table, htable, ?_⟩
    rw [Plan.reading, hfault]
    rfl
  have hfree : TargetIsFree catalog statement.sql := by
    intro other hother
    obtain rfl := Option.some.inj (h.target?_eq.symm.trans hother)
    exact h.isFree
  exact execute_eq_ok_iff.2 ⟨_, prepare_eq_ok_iff.2 ⟨hfree, _, h.read, hcheck⟩, rfl⟩

/-- A creation succeeds alike where `temp` has the same tables and the source shows the same. -/
theorem congr (h : Creates spec statement catalog target query table) {other : Catalog}
    (hstate : other.state = catalog.state)
    (htemp : ∀ own, other.tableIn? .temp own = catalog.tableIn? .temp own)
    (hsource : findSource other true query.source = findSource catalog true query.source) :
    Creates spec statement other target query table := by
  refine ⟨h.read, h.target?_eq, h.refers, h.source, ?_, ?_, ?_⟩
  · rw [checkTarget_congr hstate htemp]
    exact h.isFree
  · rw [hstate]
    exact h.isUsable
  · rw [hsource]
    exact h.made

theorem exists_name (h : Creates spec statement catalog target query table) :
    ∃ qualifier, tableRef? spec.target = some (qualifier, table.name) ∧
      (∃ others, Catalog.searched qualifier = .temp :: others) ∧
      catalog.tableIn? .temp table.name = none := by
  obtain ⟨relation, -, -, htable⟩ := h.made
  have hname := name_pivotTable htable
  obtain ⟨hsearched, hnew⟩ := checkTarget_eq_ok h.isFree
  rw [← hname] at hnew
  refine ⟨target.qualifierText, ?_, hsearched, hnew⟩
  rw [hname]
  exact h.refers

/-- What has been created is found by the name of the target. -/
theorem resolve?_eq (h : Creates spec statement catalog target query table) :
    ∃ qualifier, tableRef? spec.target = some (qualifier, table.name) ∧
      (catalog.add .temp table).resolve? qualifier table.name = some .temp := by
  obtain ⟨qualifier, href, hsearched, hnew⟩ := h.exists_name
  exact ⟨qualifier, href, resolve?_add hsearched hnew⟩

end Creates

end Crosstab.Engine

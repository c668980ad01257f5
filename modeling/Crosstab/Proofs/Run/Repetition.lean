import Crosstab.Proofs.Engine.Aspects
import Crosstab.Proofs.Run.Frame

/-!
# Repeated runs

A run that succeeds can be repeated: the second run drops what the first one has created, and from
there on it goes through the same steps to the same end.

    catalog ──drop──▶ d ──query──▶ q ──create──▶ c
                                                 │ drop
                      d' ◀───────────────────────┘  with the tables of d, but `temp` is open,
                                                     and may keep its tables otherwise

So the source has to tell nothing of how `temp` keeps its tables. Of all that can be a source only
four of the engine's own tables do.
-/

namespace Crosstab

open Engine

/-! ### Catalogs with the same tables -/

/-- Two catalogs have the same tables in the same medium, but `temp` may keep them otherwise. -/
structure Alike (catalog other : Catalog) : Prop where
  main : other.main = catalog.main
  entries : other.temp.entries = catalog.temp.entries
  medium : other.medium = catalog.medium

theorem Engine.SameTables.alike {catalog other : Catalog} (h : SameTables catalog other) :
    Alike catalog other :=
  ⟨h.main, by rw [h.temp], h.medium⟩

namespace Alike

variable {catalog middle other : Catalog}

theorem symm (h : Alike catalog other) : Alike other catalog :=
  ⟨h.main.symm, h.entries.symm, h.medium.symm⟩

theorem trans (h : Alike catalog middle) (h' : Alike middle other) : Alike catalog other :=
  ⟨h'.main.trans h.main, h'.entries.trans h.entries, h'.medium.trans h.medium⟩

theorem tables_eq (h : Alike catalog other) (schema : Schema) :
    other.tables schema = catalog.tables schema := by
  cases schema with
  | main =>
    show other.main.tables = catalog.main.tables
    rw [h.main]
  | temp =>
    show other.temp.entries.map Entry.table = catalog.temp.entries.map Entry.table
    rw [h.entries]

theorem tableIn?_eq (h : Alike catalog other) (schema : Schema) (own : String) :
    other.tableIn? schema own = catalog.tableIn? schema own := by
  show (other.tables schema).find? _ = (catalog.tables schema).find? _
  rw [h.tables_eq]

theorem state_eq (h : Alike catalog other) : other.state = catalog.state := by
  rw [Catalog.state, Catalog.state, h.medium]

theorem agrees (h : Alike catalog other) (hmodules : other.modules = catalog.modules)
    {aspect : Aspect} (hkept : aspect ≠ .whole .temp)
    (hopen : aspect = .opening → other.tempIsOpen = catalog.tempIsOpen) :
    aspect.Agrees catalog other := by
  cases aspect with
  | entries schema =>
    cases schema with
    | main => exact congrArg Database.entries h.main
    | temp => exact h.entries
  | whole schema =>
    cases schema with
    | main => exact h.main
    | temp => exact absurd rfl hkept
  | medium => exact h.medium
  | opening => exact hopen rfl
  | modules => exact hmodules

end Alike

/-! ### Sources that tell of `temp` -/

/-- Reading something, or creating a table from it, tells how `temp` keeps its tables, or that it
has been needed, while it has not been. -/
def Engine.Found.TellsOfTemp (isOpen : Bool) (found : Found) : Prop :=
  .whole .temp ∈ found.aspects true ∨ (.opening ∈ found.aspects true ∧ isOpen = false)

section

variable {base catalog other : Catalog} {name : String} {isOpen creating : Bool}

theorem findSource_alike (h : Alike catalog other) (hmodules : other.modules = catalog.modules)
    (hopen : isOpen = true → other.tempIsOpen = catalog.tempIsOpen) (hbase : Alike base catalog)
    (hsource : ∀ found, base.found? name = some found → ¬ found.TellsOfTemp isOpen)
    {written : TableName} (hrefers : written.Refers name) :
    findSource other creating written = findSource catalog creating written := by
  apply findSource_congr hrefers (anonymous_found? h.tableIn?_eq)
  intro found hfound aspect haspect
  obtain ⟨source, hfound', hanonymous⟩ :=
    exists_found_of_anonymous (anonymous_found? hbase.tableIn?_eq) hfound
  have hnot := hsource source hfound'
  have hmem : aspect ∈ source.aspects true := by
    rw [← aspects_anonymous, hanonymous, aspects_anonymous]
    exact aspects_subset creating found haspect
  apply h.agrees hmodules
  · rintro rfl
    exact hnot (.inl hmem)
  · rintro rfl
    cases isOpen with
    | false => exact absurd (.inr ⟨hmem, rfl⟩) hnot
    | true => exact hopen rfl

end

/-! ### Queries and creations again -/

section

variable {spec : Spec} {statement : Sql.Statement} {catalog other : Catalog} {target : TableName}
  {query : PivotQuery} {table : Table}

theorem alike_drop_add (hnew : catalog.tableIn? .temp table.name = none) :
    Alike catalog ((catalog.add .temp table).drop .temp table.name) :=
  ⟨rfl, Database.entries_drop_add hnew _, rfl⟩

theorem dropAnswer_add (h : Creates spec statement catalog target query table)
    (hwhole : IsWhole spec.target.toList) : dropAnswer spec (catalog.add .temp table) =
      (.ok (), (catalog.add .temp table).drop .temp table.name) := by
  obtain ⟨qualifier, href, hresolve⟩ := h.resolve?_eq
  have hdrops : Drops (catalog.add .temp table) spec.target .temp table.name := by
    refine ⟨hwhole, ⟨qualifier, href, hresolve⟩, h.isUsable, ?_⟩
    intro hmain
    cases hmain
  have hwithout : (catalog.add .temp table).without spec.target =
      (catalog.add .temp table).drop .temp table.name := by
    rw [Catalog.without, Catalog.holder?, href, Option.bind_some, hresolve]
    rfl
  rw [← hwithout]
  exact dropTable_of_found hdrops

theorem discoveryAnswer_alike {operand : Operand} {written : TableName} {behind : List Char}
    (hread : Command.read (Sql.discoverySql spec) = .ok (.distinct operand written, behind))
    (hrefers : written.Refers spec.source) (halike : Alike catalog other)
    (hmodules : (other.lookingUp spec.source).modules = (catalog.lookingUp spec.source).modules)
    (hopen : catalog.tempIsOpen = true → other.tempIsOpen = true)
    (hsource : ∀ found, catalog.found? spec.source = some found →
      ¬ found.TellsOfTemp catalog.tempIsOpen) :
    (discoveryAnswer spec other).1 = (discoveryAnswer spec catalog).1 := by
  have hsame := (sameTables_lookingUp catalog spec.source).alike
  have hlookedUp : Alike (catalog.lookingUp spec.source) (other.lookingUp spec.source) :=
    hsame.symm.trans (halike.trans (sameTables_lookingUp other spec.source).alike)
  show Engine.query _ (other.noting _) = Engine.query _ (catalog.noting _)
  rw [noting_discoverySql hread hrefers, noting_discoverySql hread hrefers]
  apply query_discovery_congr hlookedUp.state_eq
  intro _ _ _ hread'
  cases hread.symm.trans hread'
  apply findSource_alike hlookedUp hmodules _ hsame hsource hrefers
  intro hisOpen
  show (other.tempIsOpen || _) = (catalog.tempIsOpen || _)
  rw [hisOpen, hopen hisOpen, Bool.true_or, Bool.true_or]

theorem createAnswer_alike {base : Catalog} {isOpen : Bool}
    (h : Creates spec statement (catalog.openTemp.lookingUp spec.source) target query table)
    (halike : Alike catalog other)
    (hmodules : (other.openTemp.lookingUp spec.source).modules =
      (catalog.openTemp.lookingUp spec.source).modules)
    (hbase : Alike base catalog)
    (hsource : ∀ found, base.found? spec.source = some found → ¬ found.TellsOfTemp isOpen) :
    createAnswer statement other =
      (.ok (), (other.openTemp.lookingUp spec.source).add .temp table) := by
  have hlookedUp : Alike (catalog.openTemp.lookingUp spec.source)
      (other.openTemp.lookingUp spec.source) := ⟨halike.main, halike.entries, halike.medium⟩
  have hcatalog : Alike base (catalog.openTemp.lookingUp spec.source) :=
    ⟨hbase.main, hbase.entries, hbase.medium⟩
  have hfound : findSource (other.openTemp.lookingUp spec.source) true query.source =
      findSource (catalog.openTemp.lookingUp spec.source) true query.source :=
    findSource_alike hlookedUp hmodules (fun _ => rfl) hcatalog hsource h.source
  have hcreates := h.congr hlookedUp.state_eq (hlookedUp.tableIn?_eq .temp) hfound
  have hnoted : other.noting statement.sql = other.openTemp.lookingUp spec.source :=
    noting_of_creates h halike.state_eq (halike.tableIn?_eq .temp)
  show Store.execute statement.sql other = _
  rw [store_execute, hnoted, hcreates.execute]

end

/-! ### Rounds -/

/-- What a connection knows behind a query and a creation that read the source. -/
def Engine.Catalog.lookingUpTwice (catalog : Catalog) (name : String) : Catalog :=
  (catalog.lookingUp name).openTemp.lookingUp name

theorem alike_lookingUpTwice (catalog : Catalog) (name : String) :
    Alike catalog (catalog.lookingUpTwice name) := ⟨rfl, rfl, rfl⟩

theorem modules_lookingUpTwice (catalog : Catalog) (name : String) :
    (catalog.lookingUpTwice name).modules = (catalog.lookingUp name).modules := by
  have hsame : ((catalog.lookingUp name).openTemp.found? name).map Found.anonymous =
      (catalog.found? name).map Found.anonymous := anonymous_found? fun _ _ => rfl
  exact modules_lookingUp hsame rfl

/-- From behind the drop on, a run has read its source twice and created a table. -/
structure Round (spec : Spec) (statement : Sql.Statement) (dropped : Catalog) (table : Table) :
    Prop where
  read : ∃ operand written behind, written.Refers spec.source ∧
    Command.read (Sql.discoverySql spec) = .ok (.distinct operand written, behind)
  creates : ∃ target query,
    Creates spec statement (dropped.lookingUpTwice spec.source) target query table

section

variable {spec : Spec} {options : Options} {catalog dropped discovered after : Catalog}
  {answer : Except StoreError Store.QueryResult} {values : ValueSet} {statement : Sql.Statement}

theorem exists_round (hdrop : dropAnswer spec catalog = (.ok (), dropped))
    (hdiscovery : discoveryAnswer spec dropped = (answer, discovered))
    (hassembled : assembled spec options answer = .ok (values, statement))
    (hcreate : createAnswer statement discovered = (.ok (), after)) :
    ∃ table, Round spec statement dropped table ∧
      after = (dropped.lookingUpTwice spec.source).add .temp table := by
  obtain ⟨operand, written, behind, hread, hrefers, -⟩ :=
    discover_eq_ok (discover_of_assembled hdiscovery hassembled)
  have hdiscovered : discovered = dropped.lookingUp spec.source := by
    rw [← noting_discoverySql hread hrefers]
    exact (congrArg Prod.snd hdiscovery).symm
  obtain ⟨target, query, table, hcreates, hafter⟩ :=
    exists_creates_of_created hdrop hdiscovery hassembled hcreate
  have hsame := sameTables_noting discovered statement.sql
  have hnoting : discovered.noting statement.sql = dropped.lookingUpTwice spec.source := by
    rw [Catalog.lookingUpTwice, ← hdiscovered]
    exact noting_of_creates hcreates hsame.state_eq.symm fun own =>
      (hsame.tableIn?_eq .temp own).symm
  rw [hnoting] at hcreates hafter
  exact ⟨table, ⟨⟨operand, written, behind, hrefers, hread⟩, target, query, hcreates⟩, hafter⟩

namespace Round

variable {other : Catalog} {table : Table}

/-- From an alike catalog on, where `temp` is open and the same modules have been met, a run goes
through the same round. -/
theorem again (h : Round spec statement dropped table) (halike : Alike dropped other)
    (hmodules : other.modules = (dropped.lookingUp spec.source).modules)
    (hopen : other.tempIsOpen = true)
    (hsource : ∀ found, dropped.found? spec.source = some found →
      ¬ found.TellsOfTemp dropped.tempIsOpen) :
    discoveryAnswer spec other =
        ((discoveryAnswer spec dropped).1, other.lookingUp spec.source) ∧
      createAnswer statement (other.lookingUp spec.source) =
        (.ok (), (other.lookingUpTwice spec.source).add .temp table) := by
  obtain ⟨operand, written, behind, hrefers, hread⟩ := h.read
  obtain ⟨target, query, hcreates⟩ := h.creates
  have hmet : (other.lookingUp spec.source).modules =
      (dropped.lookingUp spec.source).modules := by
    rw [modules_lookingUp (anonymous_found? halike.tableIn?_eq) hmodules, hmodules]
  have hmetTwice : (other.lookingUpTwice spec.source).modules =
      (dropped.lookingUpTwice spec.source).modules := by
    rw [modules_lookingUpTwice, modules_lookingUpTwice, hmet]
  have hlookedUp : Alike (dropped.lookingUp spec.source) (other.lookingUp spec.source) :=
    ⟨halike.main, halike.entries, halike.medium⟩
  refine ⟨Prod.ext ?_ ?_, ?_⟩
  · exact discoveryAnswer_alike hread hrefers halike hmet (fun _ => hopen) hsource
  · exact noting_discoverySql hread hrefers other
  · exact createAnswer_alike hcreates hlookedUp hmetTwice
      (sameTables_lookingUp dropped spec.source).alike hsource

end Round

theorem tables_add_alike {other : Catalog} {table : Table} (h : Alike catalog other)
    (schema : Schema) :
    (other.add .temp table).tables schema = (catalog.add .temp table).tables schema := by
  cases schema with
  | main => exact h.tables_eq .main
  | temp => rw [Catalog.tables_add, Catalog.tables_add, h.tables_eq]

/-- A real run that has succeeded succeeds again, from the drop of its own table on. -/
theorem course_again (hreal : options.dryRun = false)
    (hdrop : dropAnswer spec catalog = (.ok (), dropped))
    (hdiscovery : discoveryAnswer spec dropped = (answer, discovered))
    (hassembled : assembled spec options answer = .ok (values, statement))
    (hcreate : createAnswer statement discovered = (.ok (), after))
    (hsource : ∀ found, dropped.found? spec.source = some found →
      ¬ found.TellsOfTemp dropped.tempIsOpen) :
    ∃ last, course spec options after = (.ok (Report.on spec options values statement), last) ∧
      ∀ schema, last.tables schema = after.tables schema := by
  obtain ⟨table, hround, rfl⟩ := exists_round hdrop hdiscovery hassembled hcreate
  obtain ⟨target, query, hcreates⟩ := hround.creates
  obtain ⟨-, -, -, hnew⟩ := hcreates.exists_name
  have hdrop' := dropAnswer_add hcreates (execute_dropText (execute_eq_ok_of_store hdrop)).1
  have halike : Alike dropped (((dropped.lookingUpTwice spec.source).add .temp table).drop .temp
      table.name) := (alike_lookingUpTwice dropped spec.source).trans (alike_drop_add hnew)
  obtain ⟨hdiscovery', hcreate'⟩ :=
    hround.again halike (modules_lookingUpTwice dropped spec.source) rfl hsource
  rw [hdiscovery] at hdiscovery'
  refine ⟨_, course_created hreal hdrop' hdiscovery' hassembled hcreate', ?_⟩
  intro schema
  apply tables_add_alike
  exact (alike_lookingUpTwice dropped spec.source).symm.trans
    (halike.trans (alike_lookingUpTwice _ spec.source))

/-- A dry run that has succeeded leaves nothing behind that a second one would note. -/
theorem course_dry_again {report : Report} (hdry : options.dryRun = true)
    (h : (course spec options catalog).1 = .ok report) :
    course spec options (course spec options catalog).2 = course spec options catalog := by
  rw [course_dry spec hdry] at h
  rcases hassembled : assembled spec options (discoveryAnswer spec catalog).1 with
    error | ⟨values, statement⟩
  · rw [hassembled] at h
    cases h
  obtain ⟨operand, written, behind, hread, hrefers, -⟩ :=
    discover_eq_ok (discover_of_assembled rfl hassembled)
  have hnoting := noting_discoverySql hread hrefers
  have hagain : (catalog.noting (Sql.discoverySql spec)).noting (Sql.discoverySql spec) =
      catalog.noting (Sql.discoverySql spec) := by
    rw [hnoting, hnoting, lookingUp_lookingUp]
  have hdiscovery : discoveryAnswer spec (discoveryAnswer spec catalog).2 =
      discoveryAnswer spec catalog := by
    show (Engine.query _ ((catalog.noting _).noting _), (catalog.noting _).noting _) = _
    rw [hagain]
    rfl
  rw [course_dry spec hdry, course_dry spec hdry, hdiscovery]

end

section

variable {spec : Spec} {options : Options} {catalog : Catalog} {report : Report}

/-- A run that succeeds can be repeated, with the same report and the same tables behind it, unless
its source tells how `temp` keeps its tables or that it has been needed. -/
theorem runSpec_repeats
    (hrun : ((runSpec spec options : Run Catalog Report).start catalog).1 = .ok report)
    (hsource : options.dryRun = false → ∀ found,
      (catalog.without spec.target).found? spec.source = some found →
        ¬ found.TellsOfTemp catalog.tempIsOpen) :
    ((runSpec spec options).start ((runSpec spec options).start catalog).2.store).1 = .ok report ∧
      ∀ schema,
        ((runSpec spec options).start ((runSpec spec options).start catalog).2.store).2.store.tables
            schema =
          ((runSpec spec options).start catalog).2.store.tables schema := by
  have hfollows := (follows_runSpec spec options : Run.Follows (σ := Catalog) _ _)
  rw [(hfollows.start catalog).1] at hrun
  rw [(hfollows.start catalog).2, (hfollows.start _).1, (hfollows.start _).2]
  cases hdry : options.dryRun with
  | true =>
    rw [course_dry_again hdry hrun]
    exact ⟨hrun, fun _ => rfl⟩
  | false =>
    have hend := realEnd_course spec hdry catalog
    generalize course spec options catalog = first at hend hrun ⊢
    cases hend with
    | created hdrop hdiscovery hassembled hcreate =>
      cases hrun
      obtain rfl := eq_without_of_dropTable hdrop
      have htells := hsource hdry
      rw [← (medium_without catalog spec.target).2.1] at htells
      obtain ⟨last, hlast, htables⟩ :=
        course_again hdry hdrop hdiscovery hassembled hcreate htells
      rw [hlast]
      exact ⟨rfl, htables⟩
    | _ => cases hrun

end

/-- A table of `temp` in front of one of `main` with the same name. -/
def shadowingTables : Catalog :=
  (Catalog.empty.add .main amounts).add .temp ⟨"s", ["note"].map Column.plain, []⟩

/-- The name stands for the one as a target, and for the other as a source. -/
def amountsOverShadow : Spec := ⟨"s", "s", "id", "k", "amt"⟩

/-- A run that reads a table which its target hides can be repeated. -/
theorem runSpec_repeats_amountsOverShadow : ∃ report,
    ((runSpec amountsOverShadow .default : Run Catalog Report).start shadowingTables).1 =
        .ok report ∧ report.columns = ["A"] ∧
      (shadowingTables.without "s").found? "s" = some (.stored .main amounts) ∧
      ((runSpec amountsOverShadow .default).start
        ((runSpec amountsOverShadow .default).start shadowingTables).2.store).1 = .ok report := by
  have hreported : reported amountsOverShadow .default shadowingTables =
      some (["A"], [.text "A"], 0) := by decide +kernel
  obtain ⟨report, hrun, hcolumns, -⟩ := exists_of_reported hreported
  obtain ⟨hresolve, hamounts⟩ : (shadowingTables.without "s").resolve? none "s" = some .main ∧
      (shadowingTables.without "s").tableIn? .main "s" = some amounts := by decide +kernel
  have hsource : (shadowingTables.without "s").found? "s" = some (.stored .main amounts) := by
    obtain ⟨table, htable, hfind⟩ := Catalog.find?_of_resolve hresolve
    cases hamounts.symm.trans htable
    exact hfind
  have hrepeats := runSpec_repeats hrun fun _ found hfound => by
    cases hsource.symm.trans hfound
    simp [Found.TellsOfTemp, Found.aspects]
  exact ⟨report, hrun, hcolumns, hsource, hrepeats.1⟩

/-- The databases of the connection, by number. -/
def databasesByName : Spec := ⟨"w", "pragma_database_list", "seq", "name", "file"⟩

/-- The first run finds one database; the table that it creates needs `temp`, so the second run
finds two. -/
theorem runSpec_finds_temp :
    reported databasesByName .default Catalog.empty = some (["main"], [.text "main"], 0) ∧
      reported databasesByName .default
          ((runSpec databasesByName .default).start Catalog.empty).2.store =
        some (["main", "temp"], [.text "main", .text "temp"], 0) := by
  decide +kernel

end Crosstab

import Crosstab.Proofs.Engine.Creation
import Crosstab.Proofs.Engine.Lookup

/-!
# What the engine's own tables tell

A created table shows its own rows, wherever it is looked up. The tables of the engine show parts
of what the connection knows: the schema tables the tables of a database, the built-in ones its
pages, its settings or its modules, and most of them nothing that changes. What a name stands for
therefore shows the same in two catalogs that agree on the parts it tells about, and so do the
query and the creation of a run that read it.
-/

namespace Crosstab.Engine

/-! ### Aspects -/

/-- A part of what a connection knows. -/
inductive Aspect where
  /-- The tables of a database with their numbers and pages. -/
  | entries (schema : Schema)
  /-- A database with all that it keeps besides its tables: free pages, the order in which tables
  are listed, and how often they have changed. -/
  | whole (schema : Schema)
  | medium
  /-- That `temp` has been needed. -/
  | opening
  | modules
deriving DecidableEq, Repr

namespace Aspect

/-- Two catalogs are the same in this part. -/
def Agrees (catalog other : Catalog) : Aspect → Prop
  | .entries schema => (other.database schema).entries = (catalog.database schema).entries
  | .whole schema => other.database schema = catalog.database schema
  | .medium => other.medium = catalog.medium
  | .opening => other.tempIsOpen = catalog.tempIsOpen
  | .modules => other.modules = catalog.modules

/-- The database that the part belongs to. -/
def schema? : Aspect → Option Schema
  | .entries schema => some schema
  | .whole schema => some schema
  | _ => none

end Aspect

/-- The built-in tables that tell something that changes. -/
def tellingTables : List (String × List Aspect) :=
  [("dbstat", [.whole .main]), ("pragma_database_list", [.medium, .opening]),
    ("pragma_freelist_count", [.whole .main]), ("pragma_journal_mode", [.medium]),
    ("pragma_module_list", [.modules]), ("pragma_page_count", [.whole .main]),
    ("pragma_schema_version", [.whole .main]), ("pragma_table_list", [.whole .main, .whole .temp])]

/-- What a built-in table tells about. -/
def Builtin.aspects (builtin : Builtin) : List Aspect :=
  ((tellingTables.find? fun entry => entry.1 == builtin.name).map Prod.snd).getD []

/-- What reading something tells about; a check looks at the pages of `temp` while a table is being
created there. -/
def Found.aspects (creating : Bool) : Found → List Aspect
  | .stored _ _ => []
  | .schemaTable schema => [.entries schema]
  | .builtin _ table =>
    table.aspects ++ if creating && table.isCheck then [.whole .temp] else []

/-! ### Built-in tables -/

namespace Builtin

/-- The table shows the same where all that it tells about is the same. -/
def TellsAspects (builtin : Builtin) : Prop :=
  ∀ catalog other, (∀ aspect ∈ builtin.aspects, aspect.Agrees catalog other) →
    builtin.rows other = builtin.rows catalog

theorem TellsAspects.of_constant {builtin : Builtin}
    (h : ∀ catalog other, builtin.rows other = builtin.rows catalog) : builtin.TellsAspects :=
  fun catalog other _ => h catalog other

theorem tellsAspects_ofConnection {name : String} {columns arguments : List String}
    {rows : Catalog → List (List Cell)}
    (h : ∀ catalog other, (∀ aspect ∈ (ofConnection name columns arguments rows).aspects,
      aspect.Agrees catalog other) → rows other = rows catalog) :
    (ofConnection name columns arguments rows).TellsAspects := by
  intro catalog other hagrees
  show numbered (rows other) = numbered (rows catalog)
  rw [h catalog other hagrees]

theorem tellsAspects_ofMain {name : String} {columns arguments : List String}
    {rows : Catalog → List (List Cell)}
    (hmem : .whole .main ∈ (ofConnection name columns arguments rows).aspects)
    (h : ∀ catalog other, other.main = catalog.main → rows other = rows catalog) :
    (ofConnection name columns arguments rows).TellsAspects := by
  apply tellsAspects_ofConnection
  intro catalog other hagrees
  exact h catalog other (hagrees _ hmem)

theorem tellsAspects_changing : ∀ builtin ∈ changing, builtin.TellsAspects := by
  unfold changing
  simp only [List.forall_mem_cons, List.not_mem_nil, false_imp_iff, implies_true, and_true]
  refine ⟨?_, ?_, ?_, ?_, ?_, ?_, ?_⟩
  · apply tellsAspects_ofConnection
    intro catalog other h
    have hmedium : other.medium = catalog.medium := h .medium (by decide)
    have hopening : other.tempIsOpen = catalog.tempIsOpen := h .opening (by decide)
    rw [databaseRows, databaseRows, hmedium, hopening]
  · apply tellsAspects_ofMain (by decide)
    intro catalog other hmain
    rw [hmain]
  · apply tellsAspects_ofConnection
    intro catalog other h
    have hmedium : other.medium = catalog.medium := h .medium (by decide)
    rw [journalMode, journalMode, hmedium]
  · apply tellsAspects_ofConnection
    intro catalog other h
    have hmodules : other.modules = catalog.modules := h .modules (by decide)
    rw [hmodules]
  · apply tellsAspects_ofMain (by decide)
    intro catalog other hmain
    rw [hmain]
  · apply tellsAspects_ofMain (by decide)
    intro catalog other hmain
    rw [hmain]
  · apply tellsAspects_ofConnection
    intro catalog other h
    have hmain : other.database .main = catalog.database .main := h (.whole .main) (by decide)
    have htemp : other.database .temp = catalog.database .temp := h (.whole .temp) (by decide)
    simp only [tableRows, hmain, htemp]

/-- The built-in tables tell about what they are said to tell about. -/
theorem tellsAspects : ∀ builtin ∈ all, builtin.TellsAspects := by
  -- the families of built-in tables, in the order in which they are listed
  unfold all
  simp only [List.forall_mem_append]
  refine ⟨⟨⟨⟨⟨⟨?_, ?_⟩, ?_⟩, ?_⟩, ?_⟩, ?_⟩, ?_⟩
  · unfold ofModules
    simp only [List.forall_mem_append, List.forall_mem_map, List.forall_mem_cons, List.not_mem_nil,
      false_imp_iff, implies_true, and_true]
    refine ⟨⟨?_, ?_⟩, ?_, ?_⟩
    · exact .of_constant fun _ _ => rfl
    · exact .of_constant fun _ _ => rfl
    · exact .of_constant fun _ _ => rfl
    · intro catalog other h
      have hmain : other.main = catalog.main := h (.whole .main) (by decide)
      show Catalog.statistics other = Catalog.statistics catalog
      rw [Catalog.statistics, Catalog.statistics, hmain]
  · simp only [List.forall_mem_cons, List.not_mem_nil, false_imp_iff, implies_true, and_true]
    refine ⟨?_, ?_, ?_, ?_, ?_, ?_, ?_, ?_, ?_⟩ <;> exact .of_constant fun _ _ => rfl
  · exact List.forall_mem_map.2 fun _ _ => .of_constant fun _ _ => rfl
  · exact List.forall_mem_map.2 fun _ _ => .of_constant fun _ _ => rfl
  · exact tellsAspects_changing
  · exact List.forall_mem_map.2 fun _ _ => .of_constant fun _ _ => rfl
  · unfold inventory ofNames
    simp only [List.forall_mem_cons, List.not_mem_nil, false_imp_iff, implies_true, and_true]
    refine ⟨?_, ?_, ?_⟩ <;> exact .of_constant fun _ _ => rfl

end Builtin

/-! ### Relations -/

section

variable {catalog other : Catalog} {name : String} {creating : Bool}

theorem Builtin.relation_congr {builtin : Builtin} (hmem : builtin ∈ Builtin.all)
    (h : ∀ aspect ∈ builtin.aspects, aspect.Agrees catalog other)
    (hcheck : (creating && builtin.isCheck) = true → other.temp = catalog.temp) :
    builtin.relation other creating = builtin.relation catalog creating := by
  have hrows := Builtin.tellsAspects builtin hmem catalog other h
  unfold Builtin.relation
  rw [hrows]
  rcases hchecks : creating && builtin.isCheck with _ | _
  · rfl
  · rw [checkCreating, checkCreating, hcheck hchecks]

theorem relation_congr {found : Found} (hfound : catalog.found? name = some found)
    (h : ∀ aspect ∈ found.aspects creating, aspect.Agrees catalog other) :
    found.relation other creating = found.relation catalog creating := by
  cases found with
  | stored schema table => rfl
  | schemaTable schema =>
    have hentries : (other.database schema).entries = (catalog.database schema).entries :=
      h (.entries schema) List.mem_cons_self
    have hnumber : (other.database schema).nextNumber = (catalog.database schema).nextNumber := by
      rw [Database.nextNumber, Database.nextNumber, hentries]
    simp only [Found.relation, Catalog.growingSchemaTable, Catalog.schemaTable, hentries, hnumber]
  | builtin shown table =>
    obtain ⟨ref, -, hfind⟩ := Option.bind_eq_some_iff.1 hfound
    have hmem : table ∈ Builtin.all := by
      rcases Catalog.find?_cases hfind with ⟨_, _, hother, -⟩ | ⟨_, hother⟩ | ⟨_, _, hother, htable⟩
      · cases hother
      · cases hother
      · cases hother
        exact List.mem_of_find?_eq_some htable
    apply Builtin.relation_congr hmem
    · intro aspect haspect
      exact h aspect (List.mem_append_left _ haspect)
    · intro hcheck
      apply h (.whole .temp)
      rw [Found.aspects, if_pos hcheck]
      exact List.mem_append_right _ List.mem_cons_self

theorem relation_anonymous (catalog : Catalog) (creating : Bool) (found : Found) :
    found.anonymous.relation catalog creating = found.relation catalog creating := by
  cases found <;> rfl

theorem aspects_anonymous (creating : Bool) (found : Found) :
    found.anonymous.aspects creating = found.aspects creating := by
  cases found <;> rfl

theorem aspects_subset (creating : Bool) (found : Found) :
    found.aspects creating ⊆ found.aspects true := by
  cases creating with
  | true => exact List.Subset.refl _
  | false =>
    cases found with
    | builtin shown table =>
      intro aspect haspect
      have hmem : aspect ∈ table.aspects := by simpa [Found.aspects] using haspect
      exact List.mem_append_left _ hmem
    | _ => exact List.Subset.refl _

/-- A statement that refers to a name reads the same where that stands for the same, and all that
it tells about is the same. -/
theorem findSource_congr {written : TableName} (hrefers : written.Refers name)
    (hsame : (other.found? name).map Found.anonymous = (catalog.found? name).map Found.anonymous)
    (h : ∀ found, catalog.found? name = some found →
      ∀ aspect ∈ found.aspects creating, aspect.Agrees catalog other) :
    findSource other creating written = findSource catalog creating written := by
  rw [findSource_eq hrefers, findSource_eq hrefers]
  rcases hfound : catalog.found? name with _ | found
  · rw [hfound, Option.map_none, Option.map_eq_none_iff] at hsame
    rw [hsame]
  · rw [hfound, Option.map_some, Option.map_eq_some_iff] at hsame
    obtain ⟨found', hfound', hanonymous⟩ := hsame
    have hrelation : found'.relation other creating = found.relation other creating := by
      rw [← relation_anonymous, hanonymous, relation_anonymous]
    rw [hfound']
    show Except.ok _ = Except.ok _
    rw [hrelation, relation_congr hfound (h found hfound)]

end

/-! ### Discoveries -/

section

variable {spec : Spec} {catalog other : Catalog}

theorem target?_discoverySql (spec : Spec) : Command.target? (Sql.discoverySql spec) = none := by
  have htext : (Sql.discoverySql spec).toList = "SELECT".toList ++ ' ' ::
      ("DISTINCT ".toList ++ (Text.Quoted.enclose '"' spec.pivot.toList ++
        ((' ' :: Sql.spaced ["FROM"]) ++ Sql.partsText (Sql.splitDots spec.source.toList)))) := by
    rw [toList_discoverySql]
    rfl
  exact target?_eq_none (scanned_readPart (by decide) (by decide) htext) (by decide)

theorem query_discovery_congr (hstate : other.state = catalog.state)
    (hsource : ∀ operand written behind,
      Command.read (Sql.discoverySql spec) = .ok (.distinct operand written, behind) →
        findSource other false written = findSource catalog false written) :
    query (Sql.discoverySql spec) other = query (Sql.discoverySql spec) catalog := by
  have hprepare : prepare other (Sql.discoverySql spec) =
      prepare catalog (Sql.discoverySql spec) := by
    unfold prepare
    rw [target?_discoverySql]
    rcases hread : Command.read (Sql.discoverySql spec) with cause | ⟨command, behind⟩
    · rfl
    · obtain ⟨written, -, operand, -, rfl⟩ := read_discoverySql hread
      have hcheck : check other (Sql.discoverySql spec) (.distinct operand written) =
          check catalog (Sql.discoverySql spec) (.distinct operand written) := by
        simp only [check, checkFile, hstate, hsource operand written behind hread]
      simp only [bind, Except.bind, hcheck]
  rw [query, query, hprepare]

theorem noting_discoverySql {operand : Operand} {written : TableName} {behind : List Char}
    (hread : Command.read (Sql.discoverySql spec) = .ok (.distinct operand written, behind))
    (hrefers : written.Refers spec.source) (catalog : Catalog) :
    catalog.noting (Sql.discoverySql spec) = catalog.lookingUp spec.source := by
  unfold Catalog.noting
  rw [target?_discoverySql, hread]
  show catalog.notingTable (.distinct operand written) = catalog.lookingUp spec.source
  apply notingTable_eq hrefers rfl
  simp

end

theorem noting_of_creates {spec : Spec} {statement : Sql.Statement} {catalog other : Catalog}
    {target : TableName} {query : PivotQuery} {table : Table}
    (h : Creates spec statement other target query table) (hstate : catalog.state = other.state)
    (htemp : ∀ own, catalog.tableIn? .temp own = other.tableIn? .temp own) :
    catalog.noting statement.sql = catalog.openTemp.lookingUp spec.source := by
  have hfree : checkTarget catalog statement.sql target = .ok () := by
    rw [checkTarget_congr hstate htemp]
    exact h.isFree
  unfold Catalog.noting
  rw [h.target?_eq, h.read]
  dsimp only
  rw [hfree]
  show catalog.openTemp.notingTable (.createPivot target query) =
    catalog.openTemp.lookingUp spec.source
  apply notingTable_eq h.source rfl
  simp

end Crosstab.Engine

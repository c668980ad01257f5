import Crosstab.Proofs.Engine.Persistence

/-!
# Names around a drop

What a name in a spec stands for, what dropping such a name leaves, and that every name for
something else finds the same thing afterwards. Looking a name up is noted by the connection: it
may meet a module, and it may need `temp`, but it changes no table.

    catalog ──drop of a target──▶ catalog.without target
                                  other names find what they found before
-/

namespace Crosstab.Engine

/-! ### Searching lists -/

/-- A stricter search finds the same if it accepts what the other one finds. -/
theorem find?_eq_of_imp {α : Type} {p q : α → Bool} {items : List α}
    (himp : ∀ item, q item = true → p item = true)
    (hfound : ∀ item, items.find? p = some item → q item = true) :
    items.find? q = items.find? p := by
  induction items with
  | nil => rfl
  | cons item items ih =>
    rcases hp : p item with _ | _
    · have hq : q item = false := by
        rw [Bool.eq_false_iff]
        intro hq
        rw [himp item hq] at hp
        cases hp
      rw [List.find?_cons_of_neg (by simp [hq]), List.find?_cons_of_neg (by simp [hp])]
      apply ih
      intro other hother
      apply hfound
      rw [List.find?_cons_of_neg (by simp [hp]), hother]
    · have hfirst := List.find?_cons_of_pos (l := items) hp
      rw [hfirst, List.find?_cons_of_pos (hfound item hfirst)]

/-! ### What names in a spec stand for -/

/-- What a name in a spec stands for; one of more than two parts stands for nothing. -/
def Catalog.found? (catalog : Catalog) (name : String) : Option Found :=
  (tableRef? name).bind fun ref => catalog.find? ref.1 ref.2

/-- The database in which a name finds a table, and the name of the table in it: a bare name is
looked up in `temp` and then in `main`, any other one in the database in front of the point. -/
def Catalog.holder? (catalog : Catalog) (name : String) : Option (Schema × String) :=
  (tableRef? name).bind fun ref => (catalog.resolve? ref.1 ref.2).map fun schema => (schema, ref.2)

/-- A table of a database is the one that a name stands for. -/
def Catalog.means (catalog : Catalog) (name : String) (schema : Schema) (table : Table) : Bool :=
  (catalog.holder? name).any fun holder => holder.1 = schema && table.isNamed holder.2

/-- What is found, whatever it is called: built-in tables go by the names under which they have
been met. -/
def Found.anonymous : Found → Found
  | .builtin _ table => .builtin "" table
  | found => found

/-- Reading what is found needs `temp`. -/
def Found.needsTemp : Found → Bool
  | .schemaTable .temp => true
  | .builtin _ table => table.isCheck
  | _ => false

theorem find?_eq_found? {catalog : Catalog} {written : TableName} {name : String}
    (h : written.Refers name) :
    catalog.find? written.qualifierText written.table.text = catalog.found? name := by
  rw [Catalog.found?, h, Option.bind_some]

theorem findSource_eq {catalog : Catalog} {written : TableName} {name : String}
    (h : written.Refers name) (creating : Bool) :
    findSource catalog creating written = match catalog.found? name with
      | some found => .ok (found.relation catalog creating)
      | none => .error (missing written) := by
  rcases hfound : catalog.found? name with _ | found <;>
    simp only [findSource, find?_eq_found? h, hfound]

section Found

variable {catalog after : Catalog} {name : String}

theorem found?_of_holder {schema : Schema} {own : String}
    (h : catalog.holder? name = some (schema, own)) :
    ∃ table, catalog.tableIn? schema own = some table ∧
      catalog.found? name = some (.stored schema table) := by
  obtain ⟨⟨qualifier, _⟩, href, hholder⟩ := Option.bind_eq_some_iff.1 h
  obtain ⟨found, hresolve, hpair⟩ := Option.map_eq_some_iff.1 hholder
  cases hpair
  obtain ⟨table, htable, hfind⟩ := Catalog.find?_of_resolve hresolve
  refine ⟨table, htable, ?_⟩
  rw [Catalog.found?, href, Option.bind_some, hfind]

theorem holder?_of_found {schema : Schema} {table : Table}
    (h : catalog.found? name = some (.stored schema table)) :
    ∃ own, catalog.holder? name = some (schema, own) ∧
      catalog.tableIn? schema own = some table := by
  obtain ⟨⟨qualifier, own⟩, href, hfind⟩ := Option.bind_eq_some_iff.1 h
  rcases Catalog.find?_cases hfind with ⟨_, _, hfound, hresolve, htable⟩ | ⟨_, hfound⟩ |
    ⟨_, _, hfound, -⟩
  · cases hfound
    refine ⟨own, ?_, htable⟩
    rw [Catalog.holder?, href, Option.bind_some, hresolve, Option.map_some]
  · cases hfound
  · cases hfound

/-- What a name finds depends on the tables alone, and its name on the modules that are met. -/
theorem anonymous_find? (h : ∀ schema own, after.tableIn? schema own = catalog.tableIn? schema own)
    (qualifier : Option String) (own : String) :
    (after.find? qualifier own).map Found.anonymous =
      (catalog.find? qualifier own).map Found.anonymous := by
  have hstored : after.stored? qualifier own = catalog.stored? qualifier own := by
    simp only [Catalog.stored?, Catalog.resolve?, h]
  have hbuiltin : (after.builtin? own).map Found.anonymous =
      (catalog.builtin? own).map Found.anonymous := by
    unfold Catalog.builtin?
    rcases Builtin.find? own with _ | table <;> rfl
  unfold Catalog.find?
  rw [hstored]
  rcases catalog.stored? qualifier own with _ | found
  · rcases schemaTable? qualifier own with _ | schema
    · exact hbuiltin
    · rfl
  · rfl

theorem anonymous_found?
    (h : ∀ schema own, after.tableIn? schema own = catalog.tableIn? schema own) :
    (after.found? name).map Found.anonymous = (catalog.found? name).map Found.anonymous := by
  unfold Catalog.found?
  rcases tableRef? name with _ | ref
  · rfl
  · exact anonymous_find? h ref.1 ref.2

theorem exists_found_of_anonymous {found : Found}
    (h : (after.found? name).map Found.anonymous = (catalog.found? name).map Found.anonymous)
    (hfound : after.found? name = some found) :
    ∃ found', catalog.found? name = some found' ∧ found'.anonymous = found.anonymous := by
  rw [hfound, Option.map_some] at h
  exact Option.map_eq_some_iff.1 h.symm

end Found

/-! ### What looking a name up leaves behind -/

theorem mem_place (groups : Nat) (names : List String) (name : String) :
    name ∈ Roster.place groups names name := by
  unfold Roster.place
  split <;> simp

theorem contains_insert (roster : Roster) (name : String) :
    (roster.insert name).contains name = true := by
  unfold Roster.insert
  split
  · next hcontains => exact hcontains
  · exact List.any_eq_true.2 ⟨name, mem_place _ _ name, sameButCase_refl name⟩

theorem insert_insert (roster : Roster) (name : String) :
    (roster.insert name).insert name = roster.insert name := by
  show (if (roster.insert name).contains name then _ else _) = _
  rw [if_pos (contains_insert roster name)]

/-- What a connection knows once it has looked up a name to read what that stands for. -/
def Catalog.lookingUp (catalog : Catalog) (name : String) : Catalog :=
  { catalog with
    tempIsOpen := catalog.tempIsOpen || (catalog.found? name).any Found.needsTemp
    modules :=
      match catalog.found? name, tableRef? name with
      | some (.builtin _ _), some ref => catalog.modules.insert ref.2
      | _, _ => catalog.modules }

theorem any_needsTemp_anonymous (found : Option Found) :
    (found.map Found.anonymous).any Found.needsTemp = found.any Found.needsTemp := by
  rcases found with _ | _ | _ | _ <;> rfl

theorem sameTables_lookingUp (catalog : Catalog) (name : String) :
    SameTables catalog (catalog.lookingUp name) := ⟨rfl, rfl, rfl⟩

/-- Where the modules of a lookup have been met, looking up the same again meets no other ones. -/
theorem modules_lookingUp {catalog other : Catalog} {name : String}
    (hsame : (other.found? name).map Found.anonymous = (catalog.found? name).map Found.anonymous)
    (hmodules : other.modules = (catalog.lookingUp name).modules) :
    (other.lookingUp name).modules = other.modules := by
  unfold Catalog.lookingUp at hmodules ⊢
  dsimp only at hmodules ⊢
  rcases href : tableRef? name with _ | ref
  · rcases other.found? name with _ | _ | _ | _ <;> rfl
  rw [href] at hmodules
  rcases hfound : other.found? name with _ | _ | _ | ⟨shown, table⟩
  · rfl
  · rfl
  · rfl
  · obtain ⟨found, hfound', hanonymous⟩ := exists_found_of_anonymous hsame hfound
    cases found with
    | builtin =>
      rw [hfound'] at hmodules
      dsimp only at hmodules ⊢
      rw [hmodules, insert_insert]
    | _ => cases hanonymous

theorem lookingUp_lookingUp (catalog : Catalog) (name : String) :
    (catalog.lookingUp name).lookingUp name = catalog.lookingUp name := by
  have hsame : ((catalog.lookingUp name).found? name).map Found.anonymous =
      (catalog.found? name).map Found.anonymous := anonymous_found? fun _ _ => rfl
  have hneeds : ((catalog.lookingUp name).found? name).any Found.needsTemp =
      (catalog.found? name).any Found.needsTemp := by
    rw [← any_needsTemp_anonymous, hsame, any_needsTemp_anonymous]
  have hmodules := modules_lookingUp hsame rfl
  have hopen : ((catalog.lookingUp name).lookingUp name).tempIsOpen =
      (catalog.lookingUp name).tempIsOpen := by
    show ((catalog.tempIsOpen || _) || _) = (catalog.tempIsOpen || _)
    rw [hneeds, Bool.or_assoc, Bool.or_self]
  show Catalog.mk _ _ _ ((catalog.lookingUp name).lookingUp name).tempIsOpen
    ((catalog.lookingUp name).lookingUp name).modules = _
  rw [hopen, hmodules]

theorem notingTable_eq {catalog : Catalog} {command : Command} {written : TableName}
    {name : String} (hrefers : written.Refers name) (hwritten : command.table = written)
    (hreads : ∀ table, command ≠ .drop table) :
    catalog.notingTable command = catalog.lookingUp name := by
  subst hwritten
  have hfound : catalog.find? command.table.qualifierText command.table.table.text =
      catalog.found? name := find?_eq_found? hrefers
  have hmeet : catalog.meetTable command.table =
      { catalog with modules := (catalog.lookingUp name).modules } := by
    rw [Catalog.meetTable, hfound, Catalog.lookingUp, hrefers]
    rcases catalog.found? name with _ | _ | _ | _ <;> rfl
  have hneeds : needsTemp (catalog.meetTable command.table) command.table =
      (catalog.found? name).any Found.needsTemp := by
    -- meeting a module changes what a table is called, and nothing else
    have hsame := anonymous_find? (sameTables_meetTable catalog command.table).tableIn?_eq
      command.table.qualifierText command.table.table.text
    rw [← any_needsTemp_anonymous, ← hfound, ← hsame, any_needsTemp_anonymous, needsTemp]
    rcases (catalog.meetTable command.table).find? command.table.qualifierText
      command.table.table.text with _ | _ | ⟨_ | _⟩ | _ <;> rfl
  have hnoting : catalog.notingTable command =
      if needsTemp (catalog.meetTable command.table) command.table then
        (catalog.meetTable command.table).openTemp
      else catalog.meetTable command.table := by
    unfold Catalog.notingTable
    cases command with
    | drop table => exact absurd rfl (hreads table)
    | _ => rfl
  rw [hnoting, hneeds, hmeet, Catalog.lookingUp, Catalog.openTemp]
  rcases (catalog.found? name).any Found.needsTemp with _ | _ <;> simp

/-! ### Catalogs without a table -/

/-- The catalog without the table that a name stands for. -/
def Catalog.without (catalog : Catalog) (name : String) : Catalog :=
  match catalog.holder? name with
  | some (schema, own) => catalog.drop schema own
  | none => catalog

section Without

variable {catalog : Catalog} {target : String}

theorem tables_without (catalog : Catalog) (target : String) (schema : Schema) :
    (catalog.without target).tables schema =
      (catalog.tables schema).filter fun table => !catalog.means target schema table := by
  unfold Catalog.without Catalog.means
  rcases catalog.holder? target with _ | ⟨holder, own⟩
  · exact (List.filter_eq_self.2 fun _ _ => rfl).symm
  · by_cases hholder : holder = schema
    · subst hholder
      simp [Catalog.tables_drop]
    · have hkept : (catalog.drop holder own).tables schema = catalog.tables schema :=
        Catalog.tables_setDatabase_of_ne catalog (Ne.symm hholder) _
      rw [hkept, List.filter_eq_self.2]
      intro table _
      simp [hholder]

theorem medium_without (catalog : Catalog) (target : String) :
    (catalog.without target).medium = catalog.medium ∧
      (catalog.without target).tempIsOpen = catalog.tempIsOpen ∧
      (catalog.without target).modules = catalog.modules := by
  unfold Catalog.without
  rcases catalog.holder? target with _ | ⟨_ | _, own⟩ <;> exact ⟨rfl, rfl, rfl⟩

theorem tableIn?_without {schema : Schema} {own : String} {table : Table}
    (h : catalog.tableIn? schema own = some table)
    (hother : catalog.means target schema table = false) :
    (catalog.without target).tableIn? schema own = some table := by
  have hfind : (catalog.tables schema).find? (fun table => table.isNamed own) = some table := h
  show ((catalog.without target).tables schema).find? (fun table => table.isNamed own) = some table
  rw [tables_without, List.find?_filter, ← hfind]
  apply find?_eq_of_imp
  · intro item hitem
    simp only [decide_eq_true_eq] at hitem
    exact hitem.2
  · intro item hitem
    obtain rfl := Option.some.inj (hfind.symm.trans hitem)
    have hnamed := (Catalog.tableIn?_eq_some h).2
    simp [hother, hnamed]

theorem isSome_tableIn?_of_without {schema : Schema} {own : String}
    (h : ((catalog.without target).tableIn? schema own).isSome = true) :
    (catalog.tableIn? schema own).isSome = true := by
  have hfind : (((catalog.without target).tables schema).find?
      fun table => table.isNamed own).isSome = true := h
  show ((catalog.tables schema).find? fun table => table.isNamed own).isSome = true
  rw [tables_without, List.find?_isSome] at hfind
  obtain ⟨table, htable, hnamed⟩ := hfind
  rw [List.find?_isSome]
  exact ⟨table, (List.mem_filter.1 htable).1, hnamed⟩

/-- A name that does not stand for the dropped table finds what it found before. -/
theorem found?_without {name : String}
    (h : ∀ schema table, catalog.found? name = some (.stored schema table) →
      catalog.means target schema table = false) :
    (catalog.without target).found? name = catalog.found? name := by
  unfold Catalog.found?
  rcases href : tableRef? name with _ | ⟨qualifier, own⟩
  · rfl
  rw [Catalog.found?, href, Option.bind_some] at h
  have hkept {schema : Schema} (hschema : catalog.resolve? qualifier own = some schema) :
      (catalog.without target).tableIn? schema own = catalog.tableIn? schema own := by
    obtain ⟨table, htable, hfind⟩ := Catalog.find?_of_resolve hschema
    rw [htable]
    exact tableIn?_without htable (h schema table hfind)
  have hresolve : (catalog.without target).resolve? qualifier own =
      catalog.resolve? qualifier own := by
    apply find?_eq_of_imp
    · intro schema hschema
      exact isSome_tableIn?_of_without hschema
    · intro schema hschema
      have hsome : (catalog.tableIn? schema own).isSome = true := by
        simpa using List.find?_some hschema
      rwa [hkept hschema]
  have hstored : (catalog.without target).stored? qualifier own =
      catalog.stored? qualifier own := by
    unfold Catalog.stored?
    rw [hresolve]
    rcases hschema : catalog.resolve? qualifier own with _ | schema
    · rfl
    · simp [hkept hschema]
  have hbuiltin : (catalog.without target).builtin? own = catalog.builtin? own := by
    rw [Catalog.builtin?, Catalog.builtin?, (medium_without catalog target).2.2]
  rw [Option.bind_some, Option.bind_some, Catalog.find?, Catalog.find?, hstored, hbuiltin]

end Without

/-! ### Drops of a target -/

/-- A table goes by its own name and by every name that finds it alike. -/
theorem Catalog.drop_name {catalog : Catalog} {schema : Schema} {table : Table} {own : String}
    (h : table.isNamed own = true) : catalog.drop schema table.name = catalog.drop schema own := by
  have hnames : (fun entry : Entry => entry.table.isNamed table.name) =
      fun entry => entry.table.isNamed own := by
    funext entry
    exact Table.isNamed_eq h entry.table
  unfold Catalog.drop Database.drop
  rw [hnames]

/-- Noting the drop of a table leaves the catalog as it is, unless it is a built-in table. -/
theorem noting_dropText {catalog : Catalog} {target : String} {table : TableName}
    (hread : Command.read (dropText target) = .ok (.drop table, []))
    (h : ∀ shown builtin, catalog.find? table.qualifierText table.table.text ≠
      some (.builtin shown builtin)) : catalog.noting (dropText target) = catalog := by
  unfold Catalog.noting
  rw [target?_dropText, hread]
  show catalog.meetTable table = catalog
  unfold Catalog.meetTable
  split
  · next shown builtin hfind => exact absurd hfind (h shown builtin)
  · rfl

theorem find?_ne_builtin_of_planDrop {catalog noted : Catalog} (hsame : SameTables catalog noted)
    {table : TableName} {plan : Plan} (hplan : planDrop noted table = .ok plan)
    (shown : String) (builtin : Builtin) :
    catalog.find? table.qualifierText table.table.text ≠ some (.builtin shown builtin) := by
  intro hfind
  have hanonymous := anonymous_find? hsame.tableIn?_eq table.qualifierText table.table.text
  rw [hfind] at hanonymous
  unfold planDrop at hplan
  split at hplan
  · next hnone =>
    rw [hnone] at hanonymous
    cases hanonymous
  · next hstored =>
    rw [hstored] at hanonymous
    cases hanonymous
  · cases hplan
  · cases hplan

/-- A drop that is carried out takes away what the name stands for. -/
theorem eq_without_of_planDrop {catalog after : Catalog} {target : String} {table : TableName}
    (hrefers : table.Refers target) {plan : Plan} (hplan : planDrop catalog table = .ok plan)
    (hperform : plan.perform catalog = .ok after) : after = catalog.without target := by
  rw [planDrop, find?_eq_found? hrefers] at hplan
  unfold Catalog.without
  rcases hholder : catalog.holder? target with _ | ⟨schema, own⟩
  · rcases hfound : catalog.found? target with _ | ⟨schema, found⟩ | _ | _
    · rw [hfound] at hplan
      cases hplan
      cases hperform
      rfl
    · obtain ⟨own, hholder', -⟩ := holder?_of_found hfound
      rw [hholder] at hholder'
      cases hholder'
    · rw [hfound] at hplan
      cases hplan
    · rw [hfound] at hplan
      cases hplan
  · obtain ⟨found, htable, hfound⟩ := found?_of_holder hholder
    rw [hfound] at hplan
    cases hplan
    unfold Plan.perform at hperform
    dsimp only at hperform
    split at hperform
    · cases hperform
    · show after = catalog.drop schema own
      rw [← Catalog.drop_name (Catalog.tableIn?_eq_some htable).2]
      exact (Except.ok.inj hperform).symm

/-- A drop fails and leaves all tables alone, or the target is gone. -/
theorem dropTable_cases (catalog : Catalog) (target : String) :
    (∃ cause noted, Store.dropTable (Sql.quoteTable target) catalog = (.error cause, noted) ∧
        SameTables catalog noted) ∨
      Store.dropTable (Sql.quoteTable target) catalog = (.ok (), catalog.without target) := by
  have hsame := sameTables_noting catalog (dropText target)
  rw [Store.dropTable, store_execute]
  rcases hexecute : execute (dropText target) (catalog.noting (dropText target)) with cause | after
  · exact .inl ⟨_, _, rfl, hsame⟩
  right
  obtain ⟨hwhole, -, table, hrefers, plan, hplan, hperform⟩ := execute_dropText hexecute
  obtain ⟨written, hread, hwritten⟩ := read_dropSql hwhole (by rw [hrefers]; rfl)
  have htexts : written.qualifierText = table.qualifierText ∧
      written.table.text = table.table.text := by
    rw [TableName.Refers, hrefers, Option.some_inj, Prod.mk.injEq] at hwritten
    exact ⟨hwritten.1.symm, hwritten.2.symm⟩
  have hnoted : catalog.noting (dropText target) = catalog := by
    apply noting_dropText hread
    rw [htexts.1, htexts.2]
    exact find?_ne_builtin_of_planDrop hsame hplan
  rw [hnoted] at hplan hperform
  rw [eq_without_of_planDrop hrefers hplan hperform]

theorem eq_without_of_dropTable {catalog after : Catalog} {target : String}
    (h : Store.dropTable (Sql.quoteTable target) catalog = (.ok (), after)) :
    after = catalog.without target := by
  rcases dropTable_cases catalog target with ⟨_, _, hfailed, -⟩ | hdropped
  · cases hfailed.symm.trans h
  · exact (Prod.mk.inj (h.symm.trans hdropped)).2

theorem dropTable_of_found {catalog : Catalog} {target : String} {schema : Schema} {own : String}
    (h : Drops catalog target schema own) :
    Store.dropTable (Sql.quoteTable target) catalog = (.ok (), catalog.without target) := by
  have hsame := sameTables_noting catalog (dropText target)
  obtain ⟨table, -, -, hexecute⟩ := ((Drops.of_sameTables hsame).2 h).execute
  rcases dropTable_cases catalog target with ⟨cause, noted, hfailed, -⟩ | hdropped
  · rw [Store.dropTable, store_execute, hexecute] at hfailed
    cases hfailed
  · exact hdropped

/-! ### Names that stand for nothing -/

namespace Builtin

/-- The built-in tables are those of modules and those that are called after what they tell. -/
theorem name_of_mem : ∀ builtin ∈ all,
    builtin ∈ ofModules ∨ ∃ told, builtin.name = "pragma_" ++ told := by
  unfold all
  simp only [List.forall_mem_append]
  refine ⟨⟨⟨⟨⟨⟨fun _ hmem => .inl hmem, ?_⟩, ?_⟩, ?_⟩, ?_⟩, ?_⟩, ?_⟩
  · simp only [List.forall_mem_cons, List.not_mem_nil, false_imp_iff, implies_true, and_true]
    refine ⟨?_, ?_, ?_, ?_, ?_, ?_, ?_, ?_, ?_⟩ <;> exact .inr ⟨_, rfl⟩
  · exact List.forall_mem_map.2 fun _ _ => .inr ⟨_, rfl⟩
  · exact List.forall_mem_map.2 fun _ _ => .inr ⟨_, rfl⟩
  · simp only [changing, List.forall_mem_cons, List.not_mem_nil, false_imp_iff, implies_true,
      and_true]
    refine ⟨?_, ?_, ?_, ?_, ?_, ?_, ?_⟩ <;> exact .inr ⟨_, rfl⟩
  · exact List.forall_mem_map.2 fun _ _ => .inr ⟨_, rfl⟩
  · simp only [inventory, List.forall_mem_cons, List.not_mem_nil, false_imp_iff, implies_true,
      and_true]
    refine ⟨?_, ?_, ?_⟩ <;> exact .inr ⟨_, rfl⟩

theorem find?_eq_none {name : String}
    (hmodules : ∀ builtin ∈ ofModules, Text.sameButCase builtin.name name = false)
    (htold : ∀ told, Text.sameButCase ("pragma_" ++ told) name = false) : find? name = none := by
  refine List.find?_eq_none.2 fun builtin hmem => Bool.eq_false_iff.1 ?_
  rcases name_of_mem builtin hmem with hmodule | ⟨told, hname⟩
  · exact hmodules builtin hmodule
  · rw [hname]
    exact htold told

end Builtin

/-- A name that stands for nothing can be dropped, and nothing comes of it. -/
theorem dropTable_of_missing {catalog : Catalog} {target : String} (hwhole : IsWhole target.toList)
    (href : (tableRef? target).isSome = true) (husable : catalog.state.isUsable = true)
    (hmissing : catalog.found? target = none) :
    Store.dropTable (Sql.quoteTable target) catalog = (.ok (), catalog) := by
  obtain ⟨written, hread, hrefers⟩ := read_dropSql hwhole href
  have hfind : catalog.find? written.qualifierText written.table.text = none :=
    (find?_eq_found? hrefers).trans hmissing
  have hnoting : catalog.noting (dropText target) = catalog :=
    noting_dropText hread fun _ _ hfound => nomatch hfind.symm.trans hfound
  have hplan : planDrop catalog written = .ok .idle := by rw [planDrop, hfind]
  have hprepare := prepare_eq_ok_iff.2 ⟨targetIsFree_dropText catalog target, _, hread,
    check_drop_eq_ok_iff.2 ⟨husable, hplan⟩⟩
  have hexecute : execute (dropText target) catalog = .ok catalog :=
    execute_eq_ok_iff.2 ⟨_, hprepare, rfl⟩
  rw [Store.dropTable, store_execute, hnoting, hexecute]

end Crosstab.Engine

import Crosstab.Sql.Statement

/-!
# Built statements

What a statement consists of once it is built, so that nothing behind this module opens `build`:
the header, one fragment per value with its column, and the footer. Every value has exactly one
column, its name is what the policy makes of the label, and no name is taken twice.
-/

namespace Crosstab.Sql

variable {spec : Spec} {dialect : Dialect} {naming : ColumnNaming}

/-! ### Columns -/

/-- The columns that values become: each is named by its value's label, and no name is taken
before, be it by an earlier value or from the start. -/
inductive Claimed (naming : ColumnNaming) : List String → List Value → List String → Prop where
  | nil {taken} : Claimed naming taken [] []
  | cons {taken value values column columns} (hname : naming.columnName value.label = .ok column)
    (hfresh : column ∉ taken) (hrest : Claimed naming (column :: taken) values columns) :
    Claimed naming taken (value :: values) (column :: columns)

theorem claimed_of_claimNames {taken : List (String × String)} {values : List Value}
    {columns : List String} (h : claimNames naming taken values = .ok columns) :
    Claimed naming (taken.map Prod.fst) values columns := by
  induction values generalizing taken columns with
  | nil =>
    cases h
    exact .nil
  | cons value values ih =>
    rw [claimNames] at h
    rcases hname : naming.columnName value.label with cause | column
    · rw [hname] at h
      cases h
    rw [hname] at h
    rcases hlookup : taken.lookup column with _ | first
    · rcases hrest : claimNames naming ((column, value.label) :: taken) values with cause | rest
      · simp [hlookup, hrest, bind, Except.bind] at h
      · simp [hlookup, hrest, bind, Except.bind, pure, Except.pure] at h
        subst h
        -- the lookup that found nothing says that the name is free
        refine .cons hname ?_ (ih hrest)
        intro hmem
        obtain ⟨entry, hentry, rfl⟩ := List.mem_map.1 hmem
        rw [List.lookup_eq_none_iff] at hlookup
        simpa using hlookup entry hentry
    · simp [hlookup, bind, Except.bind] at h

namespace Claimed

variable {taken : List String} {values : List Value} {columns : List String}

theorem length_eq (h : Claimed naming taken values columns) : columns.length = values.length := by
  induction h with
  | nil => rfl
  | cons _ _ _ ih => rw [List.length_cons, List.length_cons, ih]

theorem not_mem (h : Claimed naming taken values columns) {column : String}
    (hcolumn : column ∈ columns) : column ∉ taken := by
  induction h with
  | nil => cases hcolumn
  | cons _ hfresh _ ih =>
    rcases List.mem_cons.1 hcolumn with rfl | hmem
    · exact hfresh
    · exact fun htaken => ih hmem (List.mem_cons_of_mem _ htaken)

theorem nodup (h : Claimed naming taken values columns) : columns.Nodup := by
  induction h with
  | nil => exact List.nodup_nil
  | cons _ _ hrest ih =>
    exact List.nodup_cons.2 ⟨fun hmem => hrest.not_mem hmem List.mem_cons_self, ih⟩

/-- Columns can be claimed wherever none of them is taken. -/
theorem congr (h : Claimed naming taken values columns) {others : List String}
    (hfree : ∀ column ∈ columns, column ∉ others) : Claimed naming others values columns := by
  induction h generalizing others with
  | nil => exact .nil
  | @cons taken value values column columns hname hfresh hrest ih =>
    refine .cons hname (hfree column List.mem_cons_self) (ih fun next hnext hmem => ?_)
    rcases List.mem_cons.1 hmem with rfl | hother
    · exact hrest.not_mem hnext List.mem_cons_self
    · exact hfree next (List.mem_cons_of_mem _ hnext) hother

end Claimed

theorem claimNames_of_claimed {taken : List (String × String)} {values : List Value}
    {columns : List String} (h : Claimed naming (taken.map Prod.fst) values columns) :
    claimNames naming taken values = .ok columns := by
  induction values generalizing taken columns with
  | nil =>
    cases h
    rfl
  | cons value values ih =>
    cases h with
    | @cons _ _ _ column columns hname hfresh hrest =>
      have hlookup : taken.lookup column = none := by
        rw [List.lookup_eq_none_iff]
        intro entry hentry
        rw [bne_iff_ne]
        rintro rfl
        exact hfresh (List.mem_map_of_mem hentry)
      have hbehind := @ih ((column, value.label) :: taken) columns hrest
      rw [claimNames, hname]
      simp [hlookup, hbehind, bind, Except.bind, pure, Except.pure]

/-! ### The statement -/

theorem build_eq_ok_iff {values : ValueSet} {statement : Statement} :
    build spec dialect naming values = .ok statement ↔
      ∃ columns, outputColumns spec naming values.values = .ok columns ∧
        statement = ⟨header spec dialect ::
          List.zipWith (fragment spec naming) values.values columns ++ [footer spec dialect],
          columns⟩ := by
  rw [build]
  rcases outputColumns spec naming values.values with cause | columns
  · simp [bind, Except.bind]
  · simp [bind, Except.bind, pure, Except.pure, eq_comm]

theorem claimed_of_build {values : ValueSet} {statement : Statement}
    (h : build spec dialect naming values = .ok statement) :
    Claimed naming [spec.rowKey] values.values statement.columns := by
  obtain ⟨columns, hcolumns, rfl⟩ := build_eq_ok_iff.1 h
  exact claimed_of_claimNames hcolumns

theorem toList_dropSql (table : String) :
    (dropSql table).toList = "DROP TABLE IF EXISTS ".toList ++ table.toList := String.toList_append

/-- The text of a statement: the fragments one behind the other. -/
theorem toList_sql_of_build {values : ValueSet} {statement : Statement}
    (h : build spec dialect naming values = .ok statement) :
    statement.sql.toList = (header spec dialect).toList ++
      ((List.zipWith (fragment spec naming) values.values statement.columns).flatMap
        String.toList ++ (footer spec dialect).toList) := by
  obtain ⟨columns, -, rfl⟩ := build_eq_ok_iff.1 h
  rw [Statement.sql, String.toList_join]
  simp

end Crosstab.Sql

import Crosstab.Proofs.Sql.Statement
import Mathlib.Data.List.Nodup

/-!
# When statements are built, and which value is blamed

A statement is built exactly if every label has a name and the names differ from each other and
from the group key. That says nothing about the order of the values or about the dialect. Where no
statement is built, the error is about the first value that cannot have a column behind the values
in front of it, and a name that is taken is blamed on the one value that has taken it.
-/

namespace Crosstab.Sql

variable {naming : ColumnNaming} {values : List Value} {columns : List String}

/-- The name that a value asks for. -/
def asked (naming : ColumnNaming) (value : Value) : Except StatementError String :=
  naming.columnName value.label

/-! ### Claims as a whole -/

theorem Claimed.map_asked {taken : List String} (h : Claimed naming taken values columns) :
    values.map (asked naming) = columns.map .ok := by
  induction h with
  | nil => rfl
  | cons hname _ _ ih => rw [List.map_cons, List.map_cons, ih, asked, hname]

/-- Columns are claimed if they are what the values ask for, all different and none taken. -/
theorem claimed_iff {taken : List String} : Claimed naming taken values columns ↔
    values.map (asked naming) = columns.map .ok ∧ columns.Nodup ∧
      ∀ column ∈ columns, column ∉ taken := by
  constructor
  · exact fun h => ⟨h.map_asked, h.nodup, fun column hcolumn => h.not_mem hcolumn⟩
  · rintro ⟨hasked, hnodup, hfree⟩
    induction columns generalizing taken values with
    | nil =>
      obtain rfl : values = [] := by simpa using hasked
      exact .nil
    | cons column columns ih =>
      obtain ⟨value, values, rfl, hname, hrest⟩ := List.map_eq_cons_iff.1 hasked
      obtain ⟨hnew, hnodup⟩ := List.nodup_cons.1 hnodup
      refine .cons hname (hfree column List.mem_cons_self) (ih hrest hnodup fun next hnext => ?_)
      rintro hmem
      rcases List.mem_cons.1 hmem with rfl | htaken
      · exact hnew hnext
      · exact hfree next (List.mem_cons_of_mem _ hnext) htaken

/-- Columns are claimed beside the group key if no name stands twice. -/
theorem claimed_key_iff {rowKey : String} : Claimed naming [rowKey] values columns ↔
    values.map (asked naming) = columns.map .ok ∧ (rowKey :: columns).Nodup := by
  rw [claimed_iff, List.nodup_cons]
  constructor
  · rintro ⟨hasked, hnodup, hfree⟩
    exact ⟨hasked, fun hmem => hfree _ hmem List.mem_cons_self, hnodup⟩
  · rintro ⟨hasked, hkey, hnodup⟩
    refine ⟨hasked, hnodup, fun column hcolumn hmem => hkey ?_⟩
    obtain rfl := List.mem_singleton.1 hmem
    exact hcolumn

theorem outputColumns_eq_ok_iff {spec : Spec} :
    outputColumns spec naming values = .ok columns ↔
      Claimed naming [spec.rowKey] values columns := by
  constructor
  · exact claimed_of_claimNames
  · intro h
    replace h : Claimed naming ([(spec.rowKey, spec.rowKey)].map Prod.fst) values columns := h
    exact claimNames_of_claimed h

theorem nodup_map_ok (names : List String) :
    (names.map (Except.ok : String → Except StatementError String)).Nodup ↔ names.Nodup :=
  List.nodup_map_iff fun _ _ h => Except.ok.inj h

/-- Whether there are columns, told without their order. -/
theorem exists_columns_iff {rowKey : String} :
    (∃ names, values.map (asked naming) = names.map .ok ∧ (rowKey :: names).Nodup) ↔
      (∀ value ∈ values, ∃ name, asked naming value = .ok name ∧ name ≠ rowKey) ∧
        (values.map (asked naming)).Nodup := by
  constructor
  · rintro ⟨names, hasked, hnodup⟩
    obtain ⟨hkey, hnodup⟩ := List.nodup_cons.1 hnodup
    constructor
    · intro value hvalue
      have hmem : asked naming value ∈ names.map .ok := hasked ▸ List.mem_map_of_mem hvalue
      obtain ⟨name, hname, heq⟩ := List.mem_map.1 hmem
      exact ⟨name, heq.symm, fun hrow => hkey (hrow ▸ hname)⟩
    · rw [hasked, nodup_map_ok]
      exact hnodup
  · rintro ⟨hnamed, hnodup⟩
    have hnames : ∃ names : List String, values.map (asked naming) = names.map .ok ∧
        ∀ name ∈ names, name ≠ rowKey := by
      clear hnodup
      induction values with
      | nil => exact ⟨[], rfl, by simp⟩
      | cons value values ih =>
        obtain ⟨name, hname, hne⟩ := hnamed value List.mem_cons_self
        obtain ⟨names, hrest, hothers⟩ :=
          ih fun next hnext => hnamed next (List.mem_cons_of_mem _ hnext)
        refine ⟨name :: names, by rw [List.map_cons, List.map_cons, hname, hrest], ?_⟩
        exact List.forall_mem_cons.2 ⟨hne, hothers⟩
    obtain ⟨names, hasked, hothers⟩ := hnames
    rw [hasked, nodup_map_ok] at hnodup
    exact ⟨names, hasked, List.nodup_cons.2 ⟨fun hkey => hothers _ hkey rfl, hnodup⟩⟩

/-! ### Refusals -/

/-- Why a value gets no column behind others that have one: its label has no name, or the name is
that of the group key, or it is that of exactly one of the others. -/
inductive Refused (rowKey : String) (naming : ColumnNaming) (earlier : List Value) (value : Value) :
    StatementError → Prop
  | unnamed {cause} (hname : asked naming value = .error cause) :
    Refused rowKey naming earlier value cause
  | key (hname : asked naming value = .ok rowKey) :
    Refused rowKey naming earlier value (.duplicateColumn rowKey rowKey value.label)
  | taken {name front first behind} (hname : asked naming value = .ok name) (hkey : name ≠ rowKey)
    (hearlier : earlier = front ++ first :: behind) (hfirst : asked naming first = .ok name)
    (hothers : ∀ other ∈ front ++ behind, asked naming other ≠ .ok name) :
    Refused rowKey naming earlier value (.duplicateColumn name first.label value.label)

/-- Values that have claimed their columns have not been refused them. -/
theorem Claimed.not_refused {rowKey : String} (h : Claimed naming [rowKey] values columns)
    {earlier behind : List Value} {value : Value} (hvalues : values = earlier ++ value :: behind)
    (cause : StatementError) : ¬ Refused rowKey naming earlier value cause := by
  subst hvalues
  obtain ⟨hnamed, hnodup⟩ := exists_columns_iff.1 ⟨columns, claimed_key_iff.1 h⟩
  obtain ⟨name, hname, hkey⟩ := hnamed value (by simp)
  intro hrefused
  cases hrefused with
  | unnamed hunnamed => cases hname.symm.trans hunnamed
  | key hrow => exact hkey (Except.ok.inj (hname.symm.trans hrow))
  | taken hagain _ hearlier hfirst _ =>
    rw [List.map_append, List.map_cons, hearlier, List.map_append, List.map_cons] at hnodup
    rw [hfirst, hagain] at hnodup
    simp [List.nodup_append] at hnodup

/-- The value that ends the claiming of names, and why. What is taken from the start stays apart
from what the values in front of it have taken. -/
theorem claimNames_eq_error {taken : List (String × String)} {cause : StatementError}
    (h : claimNames naming taken values = .error cause) :
    ∃ earlier value later names, values = earlier ++ value :: later ∧
      Claimed naming (taken.map Prod.fst) earlier names ∧
      (asked naming value = .error cause ∨ ∃ name, asked naming value = .ok name ∧
        ((∃ first, name ∉ names ∧ taken.lookup name = some first ∧
            cause = .duplicateColumn name first value.label) ∨
          ∃ first ∈ earlier, asked naming first = .ok name ∧ name ∉ taken.map Prod.fst ∧
            cause = .duplicateColumn name first.label value.label)) := by
  induction values generalizing taken with
  | nil => cases h
  | cons value values ih =>
    rw [claimNames] at h
    rcases hname : naming.columnName value.label with fault | name
    · rw [hname] at h
      cases h
      exact ⟨[], value, values, [], rfl, .nil, .inl hname⟩
    rcases hlookup : taken.lookup name with _ | first
    · rcases hrest : claimNames naming ((name, value.label) :: taken) values with fault | rest
      · simp [hname, hlookup, hrest, bind, Except.bind] at h
        subst h
        have hfresh : name ∉ taken.map Prod.fst := by
          intro hmem
          obtain ⟨entry, hentry, rfl⟩ := List.mem_map.1 hmem
          rw [List.lookup_eq_none_iff] at hlookup
          simpa using hlookup entry hentry
        obtain ⟨earlier, blamed, later, names, rfl, hclaimed, hwhy⟩ := ih hrest
        refine ⟨value :: earlier, blamed, later, name :: names, rfl,
          .cons hname hfresh hclaimed, ?_⟩
        rcases hwhy with hunnamed | ⟨other, hother, ⟨first, hnames, hfirst, rfl⟩ |
          ⟨first, hmem, hfirst, hfree, rfl⟩⟩
        · exact .inl hunnamed
        · refine .inr ⟨other, hother, ?_⟩
          -- the name is that of the value in front, or taken from the start
          by_cases heq : other = name
          · subst heq
            rw [List.lookup_cons_self] at hfirst
            cases hfirst
            exact .inr ⟨value, List.mem_cons_self, hname, hfresh, rfl⟩
          · have hne : (other == name) = false := by simpa using heq
            rw [List.lookup_cons, hne] at hfirst
            exact .inl ⟨first, by simp [heq, hnames], hfirst, rfl⟩
        · refine .inr ⟨other, hother, .inr ⟨first, List.mem_cons_of_mem _ hmem, hfirst, ?_, rfl⟩⟩
          exact fun hmem => hfree (List.mem_cons_of_mem _ hmem)
      · simp [hname, hlookup, hrest, bind, Except.bind, pure, Except.pure] at h
    · simp [hname, hlookup, bind, Except.bind] at h
      subst h
      exact ⟨[], value, values, [], rfl, .nil,
        .inr ⟨name, hname, .inl ⟨first, by simp, hlookup, rfl⟩⟩⟩

/-- The error of claiming names beside the group key is about the first value that is refused. -/
theorem exists_refused {spec : Spec} {cause : StatementError}
    (h : outputColumns spec naming values = .error cause) :
    ∃ earlier value later, values = earlier ++ value :: later ∧
      Refused spec.rowKey naming earlier value cause ∧
      ∀ front other behind, earlier = front ++ other :: behind →
        ∀ fault, ¬ Refused spec.rowKey naming front other fault := by
  obtain ⟨earlier, value, later, names, rfl, hclaimed, hwhy⟩ := claimNames_eq_error h
  replace hclaimed : Claimed naming [spec.rowKey] earlier names := hclaimed
  refine ⟨earlier, value, later, rfl, ?_, fun _ _ _ hearlier => hclaimed.not_refused hearlier⟩
  rcases hwhy with hunnamed | ⟨name, hname, ⟨first, -, hlookup, rfl⟩ |
    ⟨first, hmem, hfirst, hfree, rfl⟩⟩
  · exact .unnamed hunnamed
  · by_cases hkey : name = spec.rowKey
    · subst hkey
      rw [List.lookup_cons_self] at hlookup
      cases hlookup
      exact .key hname
    · have hother : (name == spec.rowKey) = false := by simpa using hkey
      simp [List.lookup_cons, hother] at hlookup
  · have hkey : name ≠ spec.rowKey := fun heq => hfree (by simp [heq])
    obtain ⟨front, behind, rfl⟩ := List.append_of_mem hmem
    refine .taken hname hkey rfl hfirst fun other hother heq => ?_
    have hnodup := (exists_columns_iff.1 ⟨names, claimed_key_iff.1 hclaimed⟩).2
    rw [List.map_append, List.map_cons, hfirst] at hnodup
    have hmem' : Except.ok name ∈ front.map (asked naming) ++ behind.map (asked naming) := by
      rw [← List.map_append, ← heq]
      exact List.mem_map_of_mem hother
    exact (List.nodup_middle.1 hnodup |> List.nodup_cons.1).1 hmem'

/-! ### Statements -/

/-- What building a statement comes to. -/
structure Builds (spec : Spec) (dialect : Dialect) (naming : ColumnNaming) (values : ValueSet) :
    Prop where
  /-- There is a statement if all labels have names, which differ from each other and from the group
  key. -/
  ok_iff : (∃ statement, build spec dialect naming values = .ok statement) ↔
    ∃ names, values.values.map (fun value => naming.columnName value.label) = names.map .ok ∧
      (spec.rowKey :: names).Nodup
  /-- Its columns are these names, it has a fragment for each value and its column behind the first
  one and in front of the last one, and it is shown as all of them together. -/
  ok : ∀ statement, build spec dialect naming values = .ok statement →
    values.values.map (fun value => naming.columnName value.label) = statement.columns.map .ok ∧
      statement.fragmentCount = values.size + 2 ∧
      (∀ i value column, values.values[i]? = some value → statement.columns[i]? = some column →
        statement.fragments[i + 1]? = some (fragment spec naming value column)) ∧
      statement.sql.toList = statement.fragments.flatMap String.toList ∧
      (toString statement).toList = statement.fragments.flatMap String.toList
  /-- Without a statement, the first value that is refused a column is blamed. -/
  error : ∀ cause, build spec dialect naming values = .error cause →
    ∃ earlier value later, values.values = earlier ++ value :: later ∧
      Refused spec.rowKey naming earlier value cause ∧
      ∀ front other behind, earlier = front ++ other :: behind →
        ∀ fault, ¬ Refused spec.rowKey naming front other fault
  /-- The dialect and the order of the values do not matter for that. -/
  invariant : ∀ (other : Dialect) (reordered : ValueSet), reordered.values.Perm values.values →
    ((∃ statement, build spec other naming reordered = .ok statement) ↔
      ∃ statement, build spec dialect naming values = .ok statement)

variable {spec : Spec} {dialect : Dialect}

theorem exists_build_iff {values : ValueSet} :
    (∃ statement, build spec dialect naming values = .ok statement) ↔
      ∃ names, values.values.map (asked naming) = names.map .ok ∧
        (spec.rowKey :: names).Nodup := by
  constructor
  · rintro ⟨statement, h⟩
    exact ⟨statement.columns, claimed_key_iff.1 (claimed_of_build h)⟩
  · rintro ⟨names, h⟩
    exact ⟨_, build_eq_ok_iff.2 ⟨names, outputColumns_eq_ok_iff.2 (claimed_key_iff.2 h), rfl⟩⟩

theorem outputColumns_of_build_error {values : ValueSet} {cause : StatementError}
    (h : build spec dialect naming values = .error cause) :
    outputColumns spec naming values.values = .error cause := by
  rw [build] at h
  rcases hcolumns : outputColumns spec naming values.values with fault | columns
  · rw [hcolumns] at h
    cases h
    rfl
  · rw [hcolumns] at h
    cases h

/-- The fragment of a value stands behind the header, at the value's place. -/
theorem fragment_of_build {values : ValueSet} {statement : Statement}
    (h : build spec dialect naming values = .ok statement) {i : Nat} {value : Value}
    {column : String} (hvalue : values.values[i]? = some value)
    (hcolumn : statement.columns[i]? = some column) :
    statement.fragments[i + 1]? = some (fragment spec naming value column) := by
  obtain ⟨columns, -, rfl⟩ := build_eq_ok_iff.1 h
  have hcase : (List.zipWith (fragment spec naming) values.values columns)[i]? =
      some (fragment spec naming value column) := by
    rw [List.getElem?_zipWith, hvalue, hcolumn]
  obtain ⟨hlt, -⟩ := List.getElem?_eq_some_iff.1 hcase
  show (header spec dialect :: (List.zipWith (fragment spec naming) values.values columns ++
    [footer spec dialect]))[i + 1]? = _
  rw [List.getElem?_cons_succ, List.getElem?_append_left hlt, hcase]

/-- **Building.** A statement is built exactly if there is a column for every value, and otherwise
the first value without one is blamed. -/
theorem builds (spec : Spec) (dialect : Dialect) (naming : ColumnNaming) (values : ValueSet) :
    Builds spec dialect naming values := by
  refine ⟨exists_build_iff, ?_, ?_, ?_⟩
  · intro statement h
    have hclaimed := claimed_of_build h
    refine ⟨hclaimed.map_asked, ?_, fun i value column => fragment_of_build h, ?_, ?_⟩
    · obtain ⟨columns, -, rfl⟩ := build_eq_ok_iff.1 h
      have hlength : columns.length = values.values.length := hclaimed.length_eq
      simp [Statement.fragmentCount, ValueSet.size, hlength]
    · rw [Statement.sql, String.toList_join]
    · exact String.toList_join
  · exact fun cause h => exists_refused (outputColumns_of_build_error h)
  · intro other reordered hperm
    rw [exists_build_iff, exists_build_iff, exists_columns_iff, exists_columns_iff,
      (hperm.map _).nodup_iff]
    simp only [hperm.mem_iff]

end Crosstab.Sql

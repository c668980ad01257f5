import Crosstab.Proofs.Lookup
import Crosstab.Store.Result
import Mathlib.Data.List.Forall2
import Mathlib.Data.List.Induction

/-!
# Records

The record of a row holds each of its cells that has a column, under the name of the column. Where
columns share a name, the last of them counts that the row reaches. Names ascend in a record, so it
is one list of fields and no other.

    columns, row ──record──▶ fields by name        columns, record ──cells?──▶ row

If the columns have names of their own and the rows are full, the rows are found in the records
again, and different rows have different records.
-/

namespace Crosstab

/-! ### The last place of a name -/

/-- A name stands at a place of a list, and nowhere behind it. -/
def LastAt (names : List String) (name : String) (i : Nat) : Prop :=
  names[i]? = some name ∧ ∀ j, i < j → names[j]? ≠ some name

section

variable {names : List String} {name last : String} {i : Nat}

theorem LastAt.lt_length (h : LastAt names name i) : i < names.length :=
  (List.getElem?_eq_some_iff.1 h.1).1

/-- A name behind others takes the place of the same name among them, and of no other. -/
theorem lastAt_concat : LastAt (names ++ [last]) name i ↔
    name = last ∧ i = names.length ∨ name ≠ last ∧ LastAt names name i := by
  have hend : (names ++ [last])[names.length]? = some last := List.getElem?_concat_length
  constructor
  · rintro ⟨hname, hbehind⟩
    have hi : i < names.length + 1 := by
      simpa using (List.getElem?_eq_some_iff.1 hname).1
    rcases Nat.lt_or_eq_of_le (Nat.le_of_lt_succ hi) with hlt | rfl
    · refine .inr ⟨?_, ?_, fun j hj hother => ?_⟩
      · rintro rfl
        exact hbehind _ hlt hend
      · rwa [List.getElem?_append_left hlt] at hname
      · have hj' := (List.getElem?_eq_some_iff.1 hother).1
        exact hbehind j hj (by rwa [List.getElem?_append_left hj'])
    · exact .inl ⟨Option.some.inj (hname.symm.trans hend), rfl⟩
  · rintro (⟨rfl, rfl⟩ | ⟨hne, hlast⟩)
    · refine ⟨hend, fun j hj hother => ?_⟩
      have := (List.getElem?_eq_some_iff.1 hother).1
      simp at this
      omega
    · have hlt := hlast.lt_length
      refine ⟨by rw [List.getElem?_append_left hlt]; exact hlast.1, fun j hj hother => ?_⟩
      have hj' : j < names.length + 1 := by
        simpa using (List.getElem?_eq_some_iff.1 hother).1
      rcases Nat.lt_or_eq_of_le (Nat.le_of_lt_succ hj') with hjlt | rfl
      · rw [List.getElem?_append_left hjlt] at hother
        exact hlast.2 j hj hother
      · exact hne (Option.some.inj (hother.symm.trans hend))

/-- Among names that differ every place is the last of its name. -/
theorem lastAt_of_nodup (h : names.Nodup) (hname : names[i]? = some name) :
    LastAt names name i := by
  refine ⟨hname, fun j hj hother => ?_⟩
  obtain ⟨hi, hi'⟩ := List.getElem?_eq_some_iff.1 hname
  obtain ⟨hj', hother'⟩ := List.getElem?_eq_some_iff.1 hother
  have hne := List.pairwise_iff_getElem.1 h i j hi hj' hj
  exact hne (hi'.trans hother'.symm)

theorem exists_lastAt (h : name ∈ names) : ∃ i, LastAt names name i := by
  induction names using List.reverseRecOn with
  | nil => cases h
  | append_singleton names last ih =>
    by_cases hname : name = last
    · exact ⟨_, lastAt_concat.2 (.inl ⟨hname, rfl⟩)⟩
    · have hbefore : name ∈ names := by simpa [hname] using h
      obtain ⟨i, hi⟩ := ih hbefore
      exact ⟨i, lastAt_concat.2 (.inr ⟨hname, hi⟩)⟩

end

/-! ### Fields by name -/

namespace Json

/-- The names of the fields ascend, so none stands twice. -/
def Ascending (fields : List (String × Json)) : Prop :=
  fields.Pairwise fun field other => field.1 < other.1

section

variable {name : String} {value : Json} {fields : List (String × Json)} {field : String × Json}

theorem Ascending.nodup (h : Ascending fields) : (fields.map Prod.fst).Nodup := by
  rw [List.Nodup, List.pairwise_map]
  refine List.Pairwise.imp (fun {entry other} hlt heq => ?_) h
  rw [heq] at hlt
  exact String.lt_irrefl _ hlt

/-- A field that is put among others takes the place of the one with its name. -/
theorem mem_insertField (h : Ascending fields) : field ∈ insertField name value fields ↔
    field = (name, value) ∨ field ∈ fields ∧ field.1 ≠ name := by
  induction fields with
  | nil => simp [insertField]
  | cons first rest ih =>
    obtain ⟨other, kept⟩ := first
    obtain ⟨hfirst, hrest⟩ := List.pairwise_cons.1 h
    -- behind a greater name there is none that equals
    have hgreater (hall : ∀ entry ∈ rest, name < entry.1) : ∀ entry ∈ rest, entry.1 ≠ name :=
      fun entry hentry heq => String.lt_irrefl name (heq ▸ hall entry hentry)
    unfold insertField
    split
    · next hname =>
      obtain rfl := beq_iff_eq.1 hname
      have hothers := hgreater hfirst
      grind
    · next hname =>
      split
      · next hlt =>
        have hothers := hgreater fun entry hentry =>
          String.lt_trans (of_decide_eq_true hlt) (hfirst entry hentry)
        grind
      · have hothers := ih hrest
        grind

theorem Ascending.insertField (h : Ascending fields) :
    Ascending (insertField name value fields) := by
  induction fields with
  | nil => exact List.pairwise_singleton _ _
  | cons first rest ih =>
    obtain ⟨other, kept⟩ := first
    obtain ⟨hfirst, hrest⟩ := List.pairwise_cons.1 h
    unfold Json.insertField
    split
    · next hname =>
      obtain rfl := beq_iff_eq.1 hname
      exact List.pairwise_cons.2 ⟨hfirst, hrest⟩
    · next hname =>
      split
      · next hlt =>
        refine List.pairwise_cons.2 ⟨fun entry hentry => ?_, h⟩
        rcases List.mem_cons.1 hentry with rfl | hentry
        · exact of_decide_eq_true hlt
        · exact String.lt_trans (of_decide_eq_true hlt) (hfirst entry hentry)
      · next hnot =>
        have hne : other ≠ name := fun heq => hname (beq_iff_eq.2 heq.symm)
        have hle : other ≤ name := String.not_lt.1 fun hlt => hnot (decide_eq_true hlt)
        have hgreater : other < name := Std.lt_of_le_of_ne hle hne
        refine List.pairwise_cons.2 ⟨fun entry hentry => ?_, ih hrest⟩
        rcases (mem_insertField hrest).1 hentry with rfl | ⟨hentry, -⟩
        · exact hgreater
        · exact hfirst entry hentry

end

/-! ### Collecting entries -/

/-- The fields are the last entries of each name. -/
structure Collects (entries fields : List (String × Json)) : Prop where
  ascending : Ascending fields
  mem_iff : ∀ name cell, (name, cell) ∈ fields ↔
    ∃ i, LastAt (entries.map Prod.fst) name i ∧ entries[i]? = some (name, cell)

theorem collects_nil : Collects [] [] where
  ascending := .nil
  mem_iff name cell := by simp

/-- An entry behind others is put among the fields that they are collected in. -/
theorem Collects.insertField {entries fields : List (String × Json)} (h : Collects entries fields)
    (entry : String × Json) :
    Collects (entries ++ [entry]) (insertField entry.1 entry.2 fields) := by
  refine ⟨h.ascending.insertField, fun name cell => ?_⟩
  have hend : (entries ++ [entry])[entries.length]? = some entry := List.getElem?_concat_length
  rw [mem_insertField h.ascending, h.mem_iff, List.map_append, List.map_singleton]
  constructor
  · rintro (heq | ⟨⟨i, hlast, hentry⟩, hname⟩)
    · obtain ⟨rfl, rfl⟩ := Prod.mk.inj heq
      exact ⟨entries.length, lastAt_concat.2 (.inl ⟨rfl, by simp⟩), hend⟩
    · have hi := (List.getElem?_eq_some_iff.1 hentry).1
      exact ⟨i, lastAt_concat.2 (.inr ⟨hname, hlast⟩), by rwa [List.getElem?_append_left hi]⟩
  · rintro ⟨i, hlast, hentry⟩
    rcases lastAt_concat.1 hlast with ⟨-, rfl⟩ | ⟨hname, hlast⟩
    · rw [List.length_map, hend] at hentry
      exact .inl (Option.some.inj hentry).symm
    · have hi : i < entries.length := by simpa using hlast.lt_length
      exact .inr ⟨⟨i, hlast, by rwa [List.getElem?_append_left hi] at hentry⟩, hname⟩

/-- The induction is on the entries that are left; the fields are what the entries in front of them
have been collected in. -/
theorem Collects.foldl {entries fields : List (String × Json)} (h : Collects entries fields)
    (others : List (String × Json)) : Collects (entries ++ others)
      (others.foldl (fun sorted field => Json.insertField field.1 field.2 sorted) fields) := by
  induction others generalizing entries fields with
  | nil => rwa [List.append_nil]
  | cons entry others ih =>
    rw [← List.singleton_append, ← List.append_assoc]
    exact ih (h.insertField entry)

/-- A sorted object collects what it is made of. -/
theorem exists_sortedObject_eq (entries : List (String × Json)) :
    ∃ fields, sortedObject entries = .object fields ∧ Collects entries fields :=
  ⟨_, rfl, collects_nil.foldl entries⟩

end Json

/-! ### Records of rows -/

namespace Store.QueryResult

/-- The names of the columns that a row reaches. -/
def reached (columns : List String) (row : List Json) : List String :=
  columns.take (min columns.length row.length)

/-- What the fields of a row's record are: the names that the row reaches, and under each of them
the cell at its last place. -/
structure IsRecord (columns : List String) (row : List Json) (fields : List (String × Json)) :
    Prop where
  ascending : Json.Ascending fields
  names_iff : ∀ name, name ∈ fields.map Prod.fst ↔ name ∈ reached columns row
  cell_iff : ∀ name cell, (name, cell) ∈ fields ↔
    ∃ i, LastAt (reached columns row) name i ∧ row[i]? = some cell

theorem map_fst_zip (columns : List String) (row : List Json) :
    (columns.zip row).map Prod.fst = reached columns row := by
  rw [List.zip_eq_zip_take_min, List.map_fst_zip (by simp), reached]

theorem zip_getElem?_iff {columns : List String} {row : List Json} {name : String} {cell : Json}
    {i : Nat} (hname : (reached columns row)[i]? = some name) :
    (columns.zip row)[i]? = some (name, cell) ↔ row[i]? = some cell := by
  have hcolumn : columns[i]? = some name := by
    rw [reached, List.getElem?_take] at hname
    split at hname
    · exact hname
    · cases hname
  rw [List.getElem?_zip_eq_some]
  simp [hcolumn]

theorem exists_record_eq (columns : List String) (row : List Json) :
    ∃ fields, record columns row = .object fields ∧ IsRecord columns row fields := by
  obtain ⟨fields, hfields, hcollects⟩ := Json.exists_sortedObject_eq (columns.zip row)
  have hcell (name : String) (cell : Json) : (name, cell) ∈ fields ↔
      ∃ i, LastAt (reached columns row) name i ∧ row[i]? = some cell := by
    rw [hcollects.mem_iff, map_fst_zip]
    exact exists_congr fun i => and_congr_right fun hlast => zip_getElem?_iff hlast.1
  refine ⟨fields, hfields, hcollects.ascending, fun name => ?_, hcell⟩
  constructor
  · intro hname
    obtain ⟨⟨_, cell⟩, hmem, rfl⟩ := List.mem_map.1 hname
    obtain ⟨i, hlast, -⟩ := (hcell _ cell).1 hmem
    exact List.mem_of_getElem? hlast.1
  · intro hname
    obtain ⟨i, hlast⟩ := exists_lastAt hname
    have hi : i < row.length := by
      have := hlast.lt_length
      simp [reached] at this
      omega
    have hmem := (hcell name row[i]).2 ⟨i, hlast, List.getElem?_eq_getElem hi⟩
    exact List.mem_map.2 ⟨(name, row[i]), hmem, rfl⟩

/-! ### Rows from records -/

/-- The cells of a record under the names of columns. -/
def cells? (columns : List String) : Json → Option (List Json)
  | .object fields => columns.mapM fun name => fields.lookup name
  | _ => none

/-- The rows that records come from. -/
def recover? (columns : List String) (records : List Json) : Option (List (List Json)) :=
  records.mapM (cells? columns)

/-- The columns have names of their own, and every row has a cell for each. -/
structure IsFull (result : QueryResult) : Prop where
  distinct : result.columns.Nodup
  full : ∀ row ∈ result.rows, row.length = result.columns.length

theorem mapM_eq_pure {α β : Type} {m : Type → Type} [Monad m] [LawfulMonad m] {f : α → m β}
    {xs : List α} {ys : List β} (h : List.Forall₂ (fun x y => f x = pure y) xs ys) :
    xs.mapM f = pure ys := by
  induction h with
  | nil => rfl
  | cons hx _ ih => rw [List.mapM_cons, hx, ih, pure_bind, pure_bind]

theorem cells?_record {columns : List String} {row : List Json} (hdistinct : columns.Nodup)
    (hfull : row.length = columns.length) : cells? columns (record columns row) = some row := by
  obtain ⟨fields, hfields, hrecord⟩ := exists_record_eq columns row
  have hreached : reached columns row = columns := by simp [reached, hfull]
  have hlookup (i : Nat) (hi : i < columns.length) :
      fields.lookup columns[i] = some row[i] := by
    rw [lookup_eq_some_iff_mem hrecord.ascending.nodup, hrecord.cell_iff, hreached]
    have hplace : columns[i]? = some columns[i] := List.getElem?_eq_getElem hi
    exact ⟨i, lastAt_of_nodup hdistinct hplace, List.getElem?_eq_getElem (hfull ▸ hi)⟩
  rw [hfields]
  refine mapM_eq_pure (List.forall₂_iff_get.2 ⟨hfull.symm, fun i hi _ => ?_⟩)
  exact hlookup i hi

theorem recover?_toRecords {result : QueryResult} (h : result.IsFull) :
    recover? result.columns result.toRecords = some result.rows := by
  refine mapM_eq_pure ?_
  rw [toRecords, List.forall₂_map_left_iff, List.forall₂_same]
  exact fun row hrow => cells?_record h.distinct (h.full row hrow)

/-- **Records.** There is a record for each row, in the order of the rows, and it holds the names
that the row reaches, each with the cell at its last place. If the columns have names of their own
and the rows are full, the rows can be recovered, so no other such rows have the same records. -/
theorem toRecords_keep (result : QueryResult) :
    List.Forall₂ (fun row json =>
        ∃ fields, json = .object fields ∧ IsRecord result.columns row fields)
      result.rows result.toRecords ∧
    (result.IsFull → recover? result.columns result.toRecords = some result.rows ∧
      ∀ other : QueryResult, other.IsFull → other.columns = result.columns →
        other ≠ result → other.toRecords ≠ result.toRecords) := by
  constructor
  · rw [toRecords, List.forall₂_map_right_iff, List.forall₂_same]
    exact fun row _ => exists_record_eq result.columns row
  · intro hfull
    have hrows := recover?_toRecords hfull
    refine ⟨hrows, fun other hother hcolumns hne hrecords => hne ?_⟩
    have hsame := recover?_toRecords hother
    rw [hcolumns, hrecords, hrows] at hsame
    cases other
    cases result
    cases hcolumns
    cases hsame
    rfl

/-- Which place of a repeated name is the last depends on how far the row reaches. -/
example : record ["a", "b", "a"] [.bool true, .null, .bool false] =
      .object [("a", .bool false), ("b", .null)] ∧
    record ["a", "b", "a"] [.bool true, .null] = .object [("a", .bool true), ("b", .null)] := by
  constructor <;> rfl

/-- Columns whose names do not ascend, and two rows that hold the same cells in another order. -/
def turnedRows : QueryResult where
  columns := ["k", "id"]
  rows := [[.string "1", .null], [.null, .string "1"]]

theorem toRecords_keep_turnedRows : turnedRows.IsFull ∧
    recover? ["k", "id"] turnedRows.toRecords = some turnedRows.rows ∧
    turnedRows.toRecords = [.object [("id", .null), ("k", .string "1")],
      .object [("id", .string "1"), ("k", .null)]] := by
  have hfull : turnedRows.IsFull := ⟨by decide, by simp [turnedRows]⟩
  exact ⟨hfull, ((toRecords_keep turnedRows).2 hfull).1, rfl⟩

end Store.QueryResult

end Crosstab

import Crosstab.Discovery
import Crosstab.Proofs.Decimal.Nearest
import Crosstab.Proofs.ValueSet
import Crosstab.Store.Recording

/-!
# What a discovery finds

A discovery reads the first cells of the rows of a result, in order, and that is all it reads. The
first cell that no value stands for ends it. If there is none, its values are the first occurrences
of what the cells are, and the NULLs are counted.

    rows ──head?──▶ cells ──image?──▶ values ──firsts──▶ set

All numbers of JSON are finite, and so are the values.
-/

namespace Crosstab

open Store (QueryResult)

/-! ### Cells -/

namespace Json

/-- What a number is as a value: an integer if it has 64 bits and a sign, or else a real. -/
def Number.image : Json.Number → Value
  | .integer n _ _ => if n < 2 ^ 63 then .integer (Int64.ofInt n) else .real (.ofInt n)
  | .real x _ => .real x

/-- What a cell is as a value. -/
def image? : Json → Option Value
  | .number n => some n.image
  | .string s => some (.text s)
  | _ => none

/-- The cell is NULL. -/
def isNull : Json → Bool
  | .null => true
  | _ => false

/-- The kind of a cell that is neither a value nor NULL. -/
def foreignKind? : Json → Option String
  | .bool _ => some "boolean"
  | .array _ => some "array"
  | .object _ => some "object"
  | _ => none

end Json

theorem Value.ofCell?_eq (column : String) (cell : Json) : Value.ofCell? column cell =
    match cell.foreignKind? with
    | some kind => .error (.unsupportedValue column kind)
    | none => .ok cell.image? := by
  cases cell with
  | number n =>
    cases n with
    | integer n lower upper =>
      unfold Value.ofCell? Json.image? Json.Number.image
      dsimp only [Json.foreignKind?]
      split <;> rfl
    | real x finite => rfl
  | _ => rfl

/-- A cell that is of no foreign kind is NULL, or it is a value. -/
theorem Json.image?_eq_none_iff {cell : Json} (h : cell.foreignKind? = none) :
    cell.image? = none ↔ cell.isNull = true := by
  cases cell <;> simp_all [foreignKind?, image?, isNull]

/-- An integer stays what it is as far as 64 bits with a sign go, and beyond them it is the real
that is nearest to it. -/
theorem Json.image_integer (n : Int) (lower : -2 ^ 63 ≤ n) (upper : n < 2 ^ 64) :
    (∃ m : Int64, (Number.integer n lower upper).image = .integer m ∧ m.toInt = n) ∨
      ∃ x : Binary64, (Number.integer n lower upper).image = .real x ∧ 2 ^ 63 ≤ n ∧
        x.isFinite = true ∧ x.IsNearest n := by
  rw [Number.image]
  by_cases hn : n < 2 ^ 63
  · rw [if_pos hn]
    exact .inl ⟨_, rfl, Int64.toInt_ofInt_of_le lower hn⟩
  · have hpos : n ≠ 0 := by omega
    have habs : n.natAbs < 2 ^ 64 := by omega
    rw [if_neg hn]
    exact .inr ⟨_, rfl, Int.not_lt.1 hn, Binary64.ofInt_isNearest hpos habs⟩

/-- No number of JSON is NaN or infinite. -/
theorem Json.isFinite_of_image? {cell : Json} {x : Binary64} (h : cell.image? = some (.real x)) :
    x.isFinite = true := by
  cases cell with
  | number n =>
    replace h : n.image = .real x := Option.some.inj h
    cases n with
    | integer n lower upper =>
      rcases image_integer n lower upper with ⟨m, himage, -⟩ | ⟨y, himage, -, hfinite, -⟩
      · cases himage.symm.trans h
      · obtain rfl := Value.real.inj (himage.symm.trans h)
        exact hfinite
    | real y finite =>
      cases h
      exact finite
  | _ => cases h

/-- A cell that has a value is of no foreign kind. -/
theorem Json.foreignKind?_of_image? {cell : Json} {value : Value} (h : cell.image? = some value) :
    cell.foreignKind? = none := by
  cases cell <;> first | rfl | cases h

theorem Json.isNull_of_image? {cell : Json} {value : Value} (h : cell.image? = some value) :
    cell.isNull = false := by
  cases cell <;> first | rfl | cases h

/-- Nothing that is read off JSON is NaN or infinite. -/
theorem Json.isFinite_of_mem_images {cells : List Json} {value : Value}
    (h : value ∈ cells.filterMap Json.image?) : ∀ x, value = .real x → x.isFinite = true := by
  rintro x rfl
  obtain ⟨cell, -, hcell⟩ := List.mem_filterMap.1 h
  exact Json.isFinite_of_image? hcell

theorem Value.isNaN_of_isFinite {value : Value} (h : ∀ x, value = .real x → x.isFinite = true) :
    value.isNaN = false := by
  cases value with
  | real x => exact Binary64.isNaN_of_isFinite (h x rfl)
  | _ => rfl

/-! ### Taking cells -/

namespace ValueSet

/-- The cells are what the set has taken. -/
structure Took (set : ValueSet) (cells : List Json) : Prop where
  values_eq : set.values = Value.firsts (cells.filterMap Json.image?)
  skipped_eq : set.skippedNulls = cells.countP Json.isNull

variable {column : String} {set : ValueSet} {front : List Json}

theorem took_empty : Took empty [] := ⟨rfl, rfl⟩

theorem Took.insert (h : set.Took front) {cell : Json} {value : Value}
    (hcell : cell.image? = some value) : (set.insert value).2.Took (front ++ [cell]) := by
  have hnull := Json.isNull_of_image? hcell
  constructor
  · rw [List.filterMap_append, List.filterMap_cons_some hcell, List.filterMap_nil]
    exact values_insert h.values_eq value
  · rw [skippedNulls_insert, h.skipped_eq, List.countP_append, List.countP_singleton, hnull]
    rfl

theorem Took.skipNull (h : set.Took front) {cell : Json} (hcell : cell.isNull = true) :
    set.skipNull.Took (front ++ [cell]) := by
  have himage : cell.image? = none := by cases cell <;> first | rfl | cases hcell
  constructor
  · rw [List.filterMap_append, List.filterMap_cons_none himage, List.filterMap_nil,
      List.append_nil]
    exact h.values_eq
  · rw [List.countP_append, List.countP_singleton, hcell, ← h.skipped_eq]
    rfl

theorem addCells_cons_foreign {cell : Json} {kind : String} (h : cell.foreignKind? = some kind)
    (set : ValueSet) (cells : List Json) :
    set.addCells column (cell :: cells) = .error (.unsupportedValue column kind) := by
  have hvalue := Value.ofCell?_eq column cell
  rw [h] at hvalue
  simp [addCells, hvalue, bind, Except.bind]

/-- After a cell of no foreign kind the set goes on with the value of the cell, or with one NULL
more. -/
theorem exists_addCells_cons (column : String) {cell : Json} (h : cell.foreignKind? = none)
    (set : ValueSet) (cells : List Json) : ∃ next : ValueSet,
      set.addCells column (cell :: cells) = next.addCells column cells ∧
      ∀ front, set.Took front → next.Took (front ++ [cell]) := by
  have hvalue := Value.ofCell?_eq column cell
  rw [h] at hvalue
  rcases himage : cell.image? with _ | value
  · refine ⟨set.skipNull, ?_, fun _ hset => hset.skipNull ((Json.image?_eq_none_iff h).1 himage)⟩
    simp [addCells, hvalue, himage, bind, Except.bind]
  · refine ⟨(set.insert value).2, ?_, fun _ hset => hset.insert himage⟩
    simp [addCells, hvalue, himage, bind, Except.bind]

/-- The first cell of a foreign kind is where the taking of cells ends. -/
theorem addCells_eq_error {cells : List Json} {kind : String}
    (h : cells.findSome? Json.foreignKind? = some kind) (set : ValueSet) :
    set.addCells column cells = .error (.unsupportedValue column kind) := by
  induction cells generalizing set with
  | nil => cases h
  | cons cell cells ih =>
    rw [List.findSome?_cons] at h
    rcases hkind : cell.foreignKind? with _ | other
    · rw [hkind] at h
      obtain ⟨next, hnext, -⟩ := exists_addCells_cons column hkind set cells
      rw [hnext, ih h next]
    · rw [hkind] at h
      rw [addCells_cons_foreign hkind, Option.some.inj h]

/-- If there is none, all are taken. The induction is on the cells that are left; the set is what
the cells in front of them make it. -/
theorem exists_addCells_eq_ok (column : String) {cells : List Json}
    (h : cells.findSome? Json.foreignKind? = none) (hset : set.Took front) :
    ∃ all, set.addCells column cells = .ok all ∧ all.Took (front ++ cells) := by
  induction cells generalizing set front with
  | nil => exact ⟨set, rfl, by rwa [List.append_nil]⟩
  | cons cell cells ih =>
    rw [List.findSome?_cons] at h
    rcases hkind : cell.foreignKind? with _ | kind
    · rw [hkind] at h
      obtain ⟨next, hnext, htook⟩ := exists_addCells_cons column hkind set cells
      rw [hnext, ← List.singleton_append, ← List.append_assoc]
      exact ih h (htook front hset)
    · rw [hkind] at h
      cases h

/-- What a set is if it was read off the first cells of rows. -/
structure ReadOff (set : ValueSet) (rows : List (List Json)) : Prop where
  /-- The values are what the first cells are, each where it occurs first. -/
  values_eq : set.values = Value.firsts (rows.filterMap fun row => row.head?.bind Json.image?)
  distinct : set.values.Pairwise fun earlier later => earlier.same later = false
  represented : ∀ row ∈ rows, ∀ cell, row.head? = some cell → cell.isNull = false →
    ∃ value, cell.image? = some value ∧ ∃ member ∈ set.values, member.same value = true
  skipped_eq : set.skippedNulls = rows.countP fun row => row.head?.any Json.isNull
  finite : ∀ x, Value.real x ∈ set.values → x.isFinite = true

/-- A set that took the first cells of rows, none of them of a foreign kind. -/
theorem Took.readOff {rows : List (List Json)}
    (hforeign : ∀ row ∈ rows, row.head?.bind Json.foreignKind? = none)
    (h : set.Took (rows.filterMap List.head?)) : set.ReadOff rows := by
  have hvalues := h.values_eq
  refine ⟨?_, hvalues ▸ Value.pairwise_firsts _, ?_, ?_, ?_⟩
  · rw [hvalues, List.filterMap_filterMap]
  · intro row hrow cell hcell hnull
    have hkind := hforeign row hrow
    rw [hcell, Option.bind_some] at hkind
    rcases himage : cell.image? with _ | value
    · rw [(Json.image?_eq_none_iff hkind).1 himage] at hnull
      cases hnull
    · have hfirst : cell ∈ rows.filterMap List.head? := List.mem_filterMap.2 ⟨row, hrow, hcell⟩
      have hmem : value ∈ (rows.filterMap List.head?).filterMap Json.image? :=
        List.mem_filterMap.2 ⟨cell, hfirst, himage⟩
      have hnumber := Value.isNaN_of_isFinite (Json.isFinite_of_mem_images hmem)
      exact ⟨value, rfl, hvalues ▸ Value.exists_same_firsts hmem hnumber⟩
  · rw [h.skipped_eq, List.countP_filterMap]
    refine List.countP_congr fun row _ => ?_
    cases row.head? <;> rfl
  · intro x hx
    exact Json.isFinite_of_mem_images (Value.firsts_subset (hvalues ▸ hx)) x rfl

end ValueSet

/-! ### Reading a result -/

namespace Store

/-- What a discovery makes of the rows of a result. -/
structure QueryResult.Folds (result : QueryResult) (column : String)
    (answer : Except StoreError ValueSet) : Prop where
  fails_iff : (∃ cause, answer = .error cause) ↔
    ∃ row ∈ result.rows, ∃ cell kind, row.head? = some cell ∧ cell.foreignKind? = some kind
  /-- The first cell of a foreign kind is the one that is blamed. -/
  error_iff : ∀ cause, answer = .error cause ↔ ∃ before row after kind,
    result.rows = before ++ row :: after ∧ row.head?.bind Json.foreignKind? = some kind ∧
    (∀ earlier ∈ before, earlier.head?.bind Json.foreignKind? = none) ∧
    cause = .unsupportedValue column kind
  readOff : ∀ set, answer = .ok set → set.ReadOff result.rows
  /-- Rows without cells might as well not be there. -/
  withoutEmpty : answer = ValueSet.ofResult column
    { result with rows := result.rows.filter fun row => !row.isEmpty }

namespace QueryResult

theorem firstColumn_withoutEmpty (result : QueryResult) :
    { result with rows := result.rows.filter fun row => !row.isEmpty }.firstColumn =
      result.firstColumn := by
  unfold firstColumn
  dsimp only
  rw [List.filterMap_filter]
  refine congrArg (List.filterMap · result.rows) (funext fun row => ?_)
  cases row <;> rfl

theorem findSome?_firstColumn (result : QueryResult) :
    result.firstColumn.findSome? Json.foreignKind? =
      result.rows.findSome? fun row => row.head?.bind Json.foreignKind? := by
  rw [← List.head?_filterMap, firstColumn, List.filterMap_filterMap, List.head?_filterMap]

theorem ofResult_eq_error_iff {result : QueryResult} {column : String} {cause : StoreError} :
    ValueSet.ofResult column result = .error cause ↔
      ∃ kind, result.firstColumn.findSome? Json.foreignKind? = some kind ∧
        cause = .unsupportedValue column kind := by
  unfold ValueSet.ofResult
  rcases hkind : result.firstColumn.findSome? Json.foreignKind? with _ | kind
  · obtain ⟨all, hall, -⟩ := ValueSet.exists_addCells_eq_ok column hkind ValueSet.took_empty
    simp [hall]
  · rw [ValueSet.addCells_eq_error hkind]
    simp [eq_comm]

/-- A discovery that succeeds has taken all first cells, and met none of a foreign kind. -/
theorem took_of_ofResult {result : QueryResult} {column : String} {set : ValueSet}
    (h : ValueSet.ofResult column result = .ok set) :
    result.firstColumn.findSome? Json.foreignKind? = none ∧ set.Took result.firstColumn := by
  have hforeign : result.firstColumn.findSome? Json.foreignKind? = none := by
    rcases hkind : result.firstColumn.findSome? Json.foreignKind? with _ | kind
    · rfl
    · rw [ofResult_eq_error_iff.2 ⟨kind, hkind, rfl⟩] at h
      cases h
  obtain ⟨all, hall, htook⟩ :=
    ValueSet.exists_addCells_eq_ok column hforeign ValueSet.took_empty
  obtain rfl := Except.ok.inj (hall.symm.trans h)
  exact ⟨hforeign, htook⟩

theorem folds (result : QueryResult) (column : String) :
    result.Folds column (ValueSet.ofResult column result) where
  fails_iff := by
    simp only [ofResult_eq_error_iff, findSome?_firstColumn]
    constructor
    · rintro ⟨-, kind, hkind, -⟩
      obtain ⟨row, hrow, hkind⟩ := List.exists_of_findSome?_eq_some hkind
      obtain ⟨cell, hcell, hkind⟩ := Option.bind_eq_some_iff.1 hkind
      exact ⟨row, hrow, cell, kind, hcell, hkind⟩
    · rintro ⟨row, hrow, cell, kind, hcell, hkind⟩
      have hsome : (result.rows.findSome? fun row => row.head?.bind Json.foreignKind?).isSome :=
        List.findSome?_isSome_iff.2 ⟨row, hrow, by rw [hcell, Option.bind_some, hkind]; rfl⟩
      obtain ⟨first, hfirst⟩ := Option.isSome_iff_exists.1 hsome
      exact ⟨_, first, hfirst, rfl⟩
  error_iff cause := by
    rw [ofResult_eq_error_iff, findSome?_firstColumn]
    simp only [List.findSome?_eq_some_iff]
    constructor
    · rintro ⟨kind, ⟨before, row, after, hrows, hkind, hbefore⟩, hcause⟩
      exact ⟨before, row, after, kind, hrows, hkind, hbefore, hcause⟩
    · rintro ⟨before, row, after, kind, hrows, hkind, hbefore, hcause⟩
      exact ⟨kind, ⟨before, row, after, hrows, hkind, hbefore⟩, hcause⟩
  readOff set hset := by
    obtain ⟨hforeign, htook⟩ := took_of_ofResult hset
    rw [findSome?_firstColumn, List.findSome?_eq_none_iff] at hforeign
    exact htook.readOff hforeign
  withoutEmpty := by
    unfold ValueSet.ofResult
    rw [firstColumn_withoutEmpty]

end QueryResult

/-- All that a discovery looks at is the result that the store answers with. -/
theorem discover_eq_ofResult {σ : Type} [Store σ] (spec : Spec) {store : σ} {result : QueryResult}
    (h : (query (Sql.discoverySql spec) store).1 = .ok result) :
    (discover spec store).1 = ValueSet.ofResult spec.pivot result := by
  unfold discover
  dsimp only
  rw [h]
  rfl

/-- A discovery that meets no cell of a foreign kind succeeds. -/
theorem exists_discovered {σ : Type} [Store σ] (spec : Spec) {store : σ} {result : QueryResult}
    (h : (query (Sql.discoverySql spec) store).1 = .ok result)
    (hforeign : result.firstColumn.findSome? Json.foreignKind? = none) :
    ∃ set, (discover spec store).1 = .ok set ∧ set.Took result.firstColumn := by
  rw [discover_eq_ofResult spec h]
  exact ValueSet.exists_addCells_eq_ok spec.pivot hforeign ValueSet.took_empty

/-- A discovery is a fold over the first cells of the rows that the store answers with. -/
theorem discover_folds {σ : Type} [Store σ] (spec : Spec) {store : σ} {result : QueryResult}
    (h : (query (Sql.discoverySql spec) store).1 = .ok result) :
    result.Folds spec.pivot (discover spec store).1 := by
  rw [discover_eq_ofResult spec h]
  exact result.folds spec.pivot

/-- Rows of several widths, with cells that are equal, that look alike and that are beyond the
integers of 64 bits with a sign. -/
def raggedRows : QueryResult where
  columns := ["k"]
  rows := [[], [.null, .bool true], [Json.ofInt 1], [.string "1"], [Json.ofReal ⟨0⟩, .array []],
    [], [Json.ofReal ⟨0x8000000000000000⟩], [Json.ofInt (2 ^ 64 - 1)], [Json.ofInt 1, .null]]

theorem discover_folds_raggedRows :
    let spec : Spec := ⟨"w", "s", "id", "k", "amt"⟩
    let store : Scripted := ⟨[.ok raggedRows], []⟩
    raggedRows.Folds "k" (discover spec store).1 ∧
      ∃ set, (discover spec store).1 = .ok set ∧
        set.values = [.integer 1, .text "1", .real ⟨0⟩, .real ⟨0x43f0000000000000⟩] ∧
        set.skippedNulls = 1 := by
  intro spec store
  have hfolds : raggedRows.Folds "k" (discover spec store).1 := discover_folds spec rfl
  refine ⟨hfolds, ?_⟩
  rcases hanswer : (discover spec store).1 with cause | set
  · have hnone : (raggedRows.rows.findSome? fun row => row.head?.bind Json.foreignKind?) = none :=
      rfl
    obtain ⟨row, hrow, cell, kind, hcell, hkind⟩ := hfolds.fails_iff.1 ⟨cause, hanswer⟩
    have hforeign := List.findSome?_eq_none_iff.1 hnone row hrow
    rw [hcell, Option.bind_some, hkind] at hforeign
    cases hforeign
  · have hread := hfolds.readOff set hanswer
    refine ⟨set, rfl, ?_, ?_⟩
    · rw [hread.values_eq]
      decide +kernel
    · rw [hread.skipped_eq]
      rfl

end Store

end Crosstab

import Crosstab.Proofs.Discovery
import Crosstab.Proofs.Engine.Execution
import Crosstab.Proofs.Engine.PivotTable

/-!
# Discovered values

What becomes of the distinct cells of a column on the way to the values of a run: all that JSON
does not show as `null` become values, in order, and none is lost as equal to another.

    distinct cells ──toJson──▶ JSON ──Value.ofCell?──▶ values ──insert──▶ value set

JSON has no infinities, so they are shown as `null` and are counted as NULLs.
-/

namespace Crosstab

open Engine
open Store (QueryResult)

/-! ### Cells and values -/

theorem toUTF8_of_fromUTF8? {bytes : ByteArray} {s : String}
    (h : String.fromUTF8? bytes = some s) : s.toUTF8 = bytes := by
  unfold String.fromUTF8? at h
  split at h
  · cases h
    rfl
  · cases h

/-- JSON shows the cell as `null`: NULL, and every real that is not finite. -/
def Engine.Cell.showsNull : Cell → Bool
  | .null => true
  | .real x => !x.isFinite
  | _ => false

/-- Whether a cell is shown as `null` depends on its place alone. -/
theorem Engine.Cell.showsNull_congr {cell other : Cell} (h : cell.same other = true) :
    cell.showsNull = other.showsNull := by
  rw [same_iff] at h
  have hmixed (n : Int64) (x : Binary64) (h : compareInteger n x = .eq) : x.isFinite = true := by
    by_contra hfinite
    rw [compareInteger, if_neg hfinite] at h
    split at h <;> cases h
  cases cell with
  | real x =>
    cases other with
    | real y =>
      -- reals in one place have one magnitude, whatever their signs
      have hrank : x.signedRank = y.signedRank := compare_eq_iff_eq.1 h
      have hsame : x.rank = y.rank := by
        unfold Binary64.signedRank at hrank
        split at hrank <;> split at hrank <;> omega
      simp only [showsNull, Binary64.isFinite, hsame]
    | integer n => simp [showsNull, hmixed n x (Ordering.swap_eq_eq.1 h)]
    | _ => cases h
  | integer n =>
    cases other with
    | real y => simp [showsNull, hmixed n y h]
    | integer m => rfl
    | _ => cases h
  | _ => cases other <;> first | rfl | cases h

/-- A cell that is shown as `null` gives no value, and any other one the value that stands for
it. -/
theorem cell_of_toJson {cell : Cell} {name : String} {json : Json}
    (h : cell.toJson name = .ok json) :
    (cell.showsNull = true ∧ json = .null) ∨
      (cell.showsNull = false ∧ ∃ value, json.image? = some value ∧ value.cell = cell) := by
  cases cell with
  | null =>
    cases h
    exact .inl ⟨rfl, rfl⟩
  | integer n =>
    have hlow := Int64.le_toInt n
    have hhigh := Int64.toInt_lt n
    cases h
    refine .inr ⟨rfl, .integer n, ?_, rfl⟩
    rw [Json.ofInt, dif_pos ⟨hlow, by omega⟩, Json.image?, Json.Number.image, if_pos hhigh,
      Int64.ofInt_toInt]
  | real x =>
    cases h
    by_cases hx : x.isFinite = true
    · rw [Json.ofReal, dif_pos hx]
      exact .inr ⟨by simp [Cell.showsNull, hx], .real x, rfl, rfl⟩
    · rw [Json.ofReal, dif_neg hx]
      exact .inl ⟨by simpa [Cell.showsNull] using hx, rfl⟩
  | text bytes =>
    unfold Cell.toJson at h
    dsimp only at h
    split at h
    · next s hs =>
      cases h
      exact .inr ⟨rfl, .text s, rfl, congrArg Cell.text (toUTF8_of_fromUTF8? hs)⟩
    · cases h
  | blob bytes => cases h

/-- Equal values stand for cells with the same place. -/
theorem Value.cell_same {value other : Value} (h : value.same other = true) :
    value.cell.same other.cell = true := by
  cases value <;> cases other <;> simp only [Value.same, Bool.false_eq_true] at h
  · rw [beq_iff_eq] at h
    exact h ▸ Cell.same_refl _
  · simp only [Binary64.same, Bool.and_eq_true, decide_eq_true_eq] at h
    simp [Value.cell, Cell.same, Cell.compare, h.2]
  · rw [beq_iff_eq] at h
    exact h ▸ Cell.same_refl _

/-! ### Taking cells into a set -/

section

variable {name : String} {cells : List Cell} {jsons : List Json}

theorem images_of_toJson
    (h : List.Forall₂ (fun cell json => cell.toJson name = .ok json) cells jsons) :
    (jsons.filterMap Json.image?).map Value.cell = cells.filter (fun cell => !cell.showsNull) ∧
      jsons.countP Json.isNull = cells.countP Cell.showsNull := by
  induction h with
  | nil => exact ⟨rfl, rfl⟩
  | cons hjson _ ih =>
    obtain ⟨himages, hnulls⟩ := ih
    rcases cell_of_toJson hjson with ⟨hshown, rfl⟩ | ⟨hshown, value, himage, hcell⟩
    · rw [List.filterMap_cons_none rfl, List.countP_cons, List.countP_cons, himages, hnulls, hshown]
      exact ⟨by simp [hshown], rfl⟩
    · have hnull := Json.isNull_of_image? himage
      rw [List.filterMap_cons_some himage, List.map_cons, himages, hcell, List.countP_cons,
        List.countP_cons, hnulls, hshown, hnull]
      exact ⟨by simp [hshown], rfl⟩

/-- Cells that are not the same as each other all become values or are counted. -/
theorem values_of_took
    (hjsons : List.Forall₂ (fun cell json => cell.toJson name = .ok json) cells jsons)
    (hdistinct : cells.Pairwise fun cell other => cell.same other = false) {set : ValueSet}
    (h : set.Took jsons) :
    set.values.map Value.cell = cells.filter (fun cell => !cell.showsNull) ∧
      set.skippedNulls = cells.countP Cell.showsNull := by
  obtain ⟨himages, hnulls⟩ := images_of_toJson hjsons
  -- values that stand for cells in different places differ, so none is turned away
  have hvalues : (jsons.filterMap Json.image?).Pairwise fun value other =>
      value.same other = false := by
    have hcells := hdistinct.filter fun cell => !cell.showsNull
    rw [← himages, List.pairwise_map] at hcells
    refine hcells.imp fun hplaces => Bool.eq_false_iff.2 fun hsame => ?_
    rw [Value.cell_same hsame] at hplaces
    cases hplaces
  rw [h.values_eq, Value.firsts_eq_self hvalues, h.skipped_eq]
  exact ⟨himages, hnulls⟩

end

/-! ### Discoveries -/

namespace Engine

theorem forall₂_toJson {name : String} {cells : List Cell} {rows : List (List Json)}
    (h : jsonRows [name] (cells.map fun cell => [cell]) = .ok rows) :
    List.Forall₂ (fun cell json => cell.toJson name = .ok json) cells
      (rows.filterMap List.head?) := by
  induction cells generalizing rows with
  | nil =>
    cases h
    exact .nil
  | cons cell cells ih =>
    rw [List.map_cons, jsonRows] at h
    obtain ⟨shown, hshown, h⟩ := bind_eq_ok_iff.1 h
    obtain ⟨rest, hrest, h⟩ := bind_eq_ok_iff.1 h
    cases h
    rcases hjson : cell.toJson name with cause | json
    · simp [hjson, bind, Except.bind] at hshown
    · simp only [List.zip_cons_cons, List.zip_nil_left, List.mapM_cons, List.mapM_nil, hjson, bind,
        Except.bind, pure, Except.pure, Except.ok.injEq] at hshown
      rw [← hshown]
      exact .cons hjson (ih hrest)

section

variable {spec : Spec} {catalog after : Catalog} {values : ValueSet} {source : Table} {index : Nat}

/-- The distinct cells of a column do not depend on the numbers of rows. -/
theorem distinctColumn_eq (source : Table) (index : Nat) :
    distinctColumn source.relation (.column index) =
      distinctCells (source.rows.map (cellAt index)) := by
  have hrows : source.relation.rows.map (Source.column index).cell =
      (source.relation.rows.map Row.cells).map (cellAt index) := by
    rw [List.map_map]
    rfl
  unfold distinctColumn
  rw [hrows]
  exact congrArg (fun rows => distinctCells (rows.map (cellAt index)))
    (map_cells_numbered source.rows)

theorem perm_distinctColumn (relation : Relation) (source : Source) :
    (distinctColumn relation source).Perm (distinctCells (relation.rows.map source.cell)) := by
  unfold distinctColumn
  dsimp only
  split
  · split
    · exact List.mergeSort_perm _ _
    · exact .refl _
  · exact .refl _

theorem pairwise_distinctColumn (relation : Relation) (source : Source) :
    (distinctColumn relation source).Pairwise fun cell other => cell.same other = false := by
  refine ((perm_distinctColumn relation source).pairwise_iff ?_).2 (pairwise_distinctCells _)
  intro cell other h
  rw [Bool.eq_false_iff] at h ⊢
  exact fun hsame => h (Cell.same_symm hsame)

/-- What the name of the pivot stands for in a relation: the text that it spells if it is no
column. -/
def pivotSource (relation : Relation) (spec : Spec) : Source :=
  (Source.named? relation spec.pivot).getD (.constant (.ofText spec.pivot))

/-- What a discovery finds: in the relation that the source stands for, the distinct cells of what
the name of the pivot stands for there. -/
theorem discover_eq_ok (h : (Store.discover spec catalog).1 = .ok values) :
    ∃ operand written behind,
      Command.read (Sql.discoverySql spec) = .ok (.distinct operand written, behind) ∧
      written.Refers spec.source ∧ ∃ relation,
      findSource (catalog.noting (Sql.discoverySql spec)) false written = .ok relation ∧
      values.values.map Value.cell = (distinctColumn relation (pivotSource relation spec)).filter
        (fun cell => !cell.showsNull) ∧
      values.skippedNulls =
        (distinctColumn relation (pivotSource relation spec)).countP Cell.showsNull := by
  have hanswer : (query (Sql.discoverySql spec) (catalog.noting (Sql.discoverySql spec))) >>=
      ValueSet.ofResult spec.pivot = .ok values := h
  obtain ⟨result, hresult, hvalues⟩ := bind_eq_ok_iff.1 hanswer
  obtain ⟨plan, behind, hprepare, hplan⟩ := query_eq_ok hresult
  obtain ⟨-, command, hread, hcheck⟩ := prepare_eq_ok_iff.1 hprepare
  obtain ⟨written, hrefers, operand, ⟨name, rfl, hname⟩, rfl⟩ := read_discoverySql hread
  obtain ⟨relation, hrelation, source, hsource, rfl⟩ := check_distinct_eq_ok hcheck
  cases hsource
  refine ⟨_, written, behind, hread, hrefers, relation, hrelation, ?_⟩
  rw [hname] at hplan
  unfold Plan.reading at hplan
  split at hplan
  · next cause _ =>
    -- a relation that cannot be read has no answer
    rcases hplan with ⟨_, _, _, hanswer, -⟩ | ⟨-, hfailing, -⟩
    · cases hanswer
    · exact absurd rfl (hfailing cause)
  rcases hplan with ⟨columns, rows, shown, hanswer, hshown, rfl⟩ | ⟨hnone, -⟩
  · cases hanswer
    exact values_of_took (forall₂_toJson hshown)
      (pairwise_distinctColumn relation (pivotSource relation spec))
      (QueryResult.took_of_ofResult hvalues).2
  · exact absurd rfl (hnone _ _)

/-- The reals among discovered values are finite. -/
theorem isFinite_of_discover (h : (Store.discover spec catalog).1 = .ok values) {x : Binary64}
    (hx : Value.real x ∈ values.values) : x.isFinite = true := by
  obtain ⟨-, -, -, -, -, relation, -, hvalues, -⟩ := discover_eq_ok h
  have hcell := List.mem_map_of_mem (f := Value.cell) hx
  rw [hvalues] at hcell
  simpa [Value.cell, Cell.showsNull] using (List.mem_filter.1 hcell).2

theorem isSome_tableRef?_of_discover (h : (Store.discover spec catalog).1 = .ok values) :
    (tableRef? spec.source).isSome = true := by
  obtain ⟨-, written, -, -, hrefers, -⟩ := discover_eq_ok h
  rw [hrefers]
  rfl

/-- A discovery in a created table finds the distinct cells of the pivot column but for NULL. -/
theorem map_cell_discover (hsource : catalog.named? spec.source = some source)
    (hindex : source.relation.column? spec.pivot = some index)
    (hfinite : ∀ row ∈ source.rows, ∀ x, cellAt index row = .real x → x.isFinite = true)
    (h : Store.discover spec catalog = (.ok values, after)) :
    values.values.map Value.cell =
      (distinctCells (source.rows.map (cellAt index))).filter (· ≠ .null) := by
  have hsame := sameTables_noting catalog (Sql.discoverySql spec)
  obtain ⟨-, written, -, -, hrefers, relation, hrelation, hvalues, -⟩ :=
    discover_eq_ok (congrArg Prod.fst h)
  rw [findSource_of_named ((hsame.named?_eq _).trans hsource) hrefers] at hrelation
  obtain rfl := Except.ok.inj hrelation
  rw [hvalues, pivotSource, named?_of_column? hindex, Option.getD_some, distinctColumn_eq]
  refine List.filter_congr fun cell hcell => ?_
  obtain ⟨row, hrow, rfl⟩ := List.mem_map.1 (mem_of_mem_distinctCells hcell)
  rcases hcase : cellAt index row with _ | _ | x | _ | _
  case real => simp [Cell.showsNull, hfinite row hrow x hcase]
  all_goals simp [Cell.showsNull]

end

end Engine

end Crosstab

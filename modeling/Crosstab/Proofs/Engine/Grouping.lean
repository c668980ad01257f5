import Crosstab.Engine.Execution
import Crosstab.Proofs.Engine.Order

/-!
# Distinct cells, maxima and groups

The three things that the queries of a run compute: the distinct cells of a column, the greatest
of some cells, and the rows of a pivot table, one per distinct key in ascending order.

    rows ──distinct keys, in order──▶ keys ──members, maxima──▶ rows of the table
-/

namespace Crosstab.Engine

/-! ### Distinct cells -/

theorem mem_of_mem_distinctCells {cell : Cell} {cells : List Cell}
    (h : cell ∈ distinctCells cells) : cell ∈ cells := by
  induction cells with
  | nil => exact h
  | cons first cells ih =>
    rcases List.mem_cons.1 h with rfl | hrest
    · exact List.mem_cons_self
    · exact List.mem_cons_of_mem _ (ih (List.mem_filter.1 hrest).1)

/-- No two of the distinct cells are the same. -/
theorem pairwise_distinctCells (cells : List Cell) :
    (distinctCells cells).Pairwise fun cell other => cell.same other = false := by
  induction cells with
  | nil => exact List.Pairwise.nil
  | cons first cells ih =>
    refine List.pairwise_cons.2 ⟨fun other hother => ?_, ih.sublist List.filter_sublist⟩
    simpa using (List.mem_filter.1 hother).2

/-- Every cell is the same as one of the distinct ones. -/
theorem exists_same_distinctCells {cell : Cell} {cells : List Cell} (h : cell ∈ cells) :
    ∃ found ∈ distinctCells cells, found.same cell = true := by
  induction cells with
  | nil => cases h
  | cons first cells ih =>
    by_cases hfirst : first.same cell = true
    · exact ⟨first, List.mem_cons_self, hfirst⟩
    rcases List.mem_cons.1 h with rfl | hrest
    · exact absurd (Cell.same_refl cell) hfirst
    · obtain ⟨found, hfound, hsame⟩ := ih hrest
      refine ⟨found, List.mem_cons_of_mem _ (List.mem_filter.2 ⟨hfound, ?_⟩), hsame⟩
      have hnot : ¬ first.same found = true := fun h => hfirst (Cell.same_trans h hsame)
      simpa using hnot

/-! ### Maxima -/

/-- The cell is the maximum of cells. NULL is the least cell of all, so it is the maximum exactly
if there is nothing else. -/
structure IsMaximum (best : Cell) (cells : List Cell) : Prop where
  null_or_mem : best = .null ∨ best ∈ cells
  notAfter : ∀ cell ∈ cells, cell.notAfter best = true

/-- The better one of the greatest cell so far and another cell. -/
def better (best cell : Cell) : Cell :=
  if cell = .null then best
  else if best = .null then cell
  else if best.compare cell == .lt then cell
  else best

theorem null_notAfter (cell : Cell) : Cell.notAfter .null cell = true := by
  cases cell <;> simp [Cell.notAfter, Cell.compare, Cell.kindRank] <;> decide

theorem better_eq (best cell : Cell) : better best cell = best ∨ better best cell = cell := by
  unfold better
  split
  · exact .inl rfl
  · split
    · exact .inr rfl
    · split
      · exact .inr rfl
      · exact .inl rfl

theorem notAfter_better (best cell : Cell) :
    best.notAfter (better best cell) = true ∧ cell.notAfter (better best cell) = true := by
  unfold better
  split
  · next hcell => exact ⟨Cell.notAfter_refl best, hcell ▸ null_notAfter best⟩
  · split
    · next hbest => exact ⟨hbest ▸ null_notAfter cell, Cell.notAfter_refl cell⟩
    · split
      · next hless =>
        rw [beq_iff_eq] at hless
        exact ⟨by simp [Cell.notAfter, hless], Cell.notAfter_refl cell⟩
      · next hless =>
        refine ⟨Cell.notAfter_refl best, ?_⟩
        rw [beq_iff_eq] at hless
        rw [Cell.notAfter, bne_iff_ne]
        exact fun hgreater => hless (Std.OrientedCmp.gt_iff_lt.1 hgreater)

theorem isMaximum_greatest (cells : List Cell) : IsMaximum (greatest cells) cells := by
  have hfold (start : Cell) :
      (cells.foldl better start = start ∨ cells.foldl better start ∈ cells) ∧
      start.notAfter (cells.foldl better start) = true ∧
      ∀ cell ∈ cells, cell.notAfter (cells.foldl better start) = true := by
    -- the fold has a maximum of what it starts with and the cells, if it starts with any cell
    induction cells generalizing start with
    | nil => exact ⟨.inl rfl, Cell.notAfter_refl start, fun _ h => nomatch h⟩
    | cons first cells ih =>
      obtain ⟨hmem, hstart, hcells⟩ := ih (better start first)
      obtain ⟨hbest, hfirst⟩ := notAfter_better start first
      rw [List.foldl_cons]
      refine ⟨?_, Cell.notAfter_trans hbest hstart, fun cell hcell => ?_⟩
      · rcases hmem with heq | hmem
        · rw [heq]
          rcases better_eq start first with hstart | hfirst
          · exact .inl hstart
          · exact .inr (hfirst.symm ▸ List.mem_cons_self)
        · exact .inr (List.mem_cons_of_mem _ hmem)
      · rcases List.mem_cons.1 hcell with rfl | hrest
        · exact Cell.notAfter_trans hfirst hstart
        · exact hcells cell hrest
  obtain ⟨hmem, -, hcells⟩ := hfold .null
  exact ⟨hmem, hcells⟩

/-- Where a condition does not hold, NULL takes no part. -/
theorem greatest_ifs {α : Type} (rows : List α) (p : α → Bool) (f : α → Cell) :
    greatest (rows.map fun row => if p row then f row else .null) =
      greatest ((rows.filter p).map f) := by
  have hfold (start : Cell) :
      (rows.map fun row => if p row then f row else .null).foldl better start =
      ((rows.filter p).map f).foldl better start := by
    induction rows generalizing start with
    | nil => rfl
    | cons row rows ih =>
      by_cases hrow : p row = true
      · simp [hrow, ih]
      · have hnull : better start .null = start := by simp [better]
        simp [hrow, hnull, ih]
  exact hfold .null

/-! ### Groups -/

/-- Every group has a row that speaks for it. -/
theorem exists_speaker (picks : List PickPlan) {members : List Row} (h : members ≠ []) :
    ∃ row ∈ members, speaker? picks members = some row := by
  unfold speaker?
  split
  · exact ⟨members.head h, List.head_mem h, List.head?_eq_some_head h⟩
  · next pick _ =>
    dsimp only
    split
    · exact ⟨members.getLast h, List.getLast_mem h, List.getLast?_eq_some_getLast h⟩
    · next hbest =>
      -- a maximum other than NULL is the cell of some row
      have hmem := (isMaximum_greatest (members.map pick.cell)).null_or_mem.resolve_left hbest
      obtain ⟨found, hfound, heq⟩ := List.mem_map.1 hmem
      have hsome : (members.find? fun row => pick.cell row = pick.maximum members).isSome = true :=
        List.find?_isSome.2 ⟨found, hfound, decide_eq_true heq⟩
      obtain ⟨row, hrow⟩ := Option.isSome_iff_exists.1 hsome
      exact ⟨row, List.mem_of_find?_eq_some hrow, hrow⟩

/-- The keys of rows, each once and in order. -/
def sortedKeys (key : Source) (rows : List Row) : List Cell :=
  (distinctCells (rows.map key.cell)).mergeSort Cell.notAfter

theorem pairwise_sortedKeys (key : Source) (rows : List Row) :
    (sortedKeys key rows).Pairwise fun k next => k.compare next = .lt := by
  have hsorted : (sortedKeys key rows).Pairwise fun k next => k.notAfter next = true := by
    apply List.pairwise_mergeSort
    · exact fun _ _ _ => Cell.notAfter_trans
    · exact Cell.notAfter_total
  have hdistinct : (sortedKeys key rows).Pairwise fun k next => k.same next = false := by
    refine (List.mergeSort_perm _ _).symm.pairwise (pairwise_distinctCells _) fun h => ?_
    rw [Bool.eq_false_iff] at h ⊢
    exact fun hsame => h (Cell.same_symm hsame)
  exact (hsorted.and hdistinct).imp fun ⟨h, h'⟩ => Cell.compare_eq_lt h h'

/-- The rows of a key. -/
def membersOf (key : Source) (rows : List Row) (k : Cell) : List Row :=
  rows.filter fun row => k.same (key.cell row)

/-- What a row of a pivot table holds: the key of rows of the source, and the maxima over these. -/
structure IsGroup (key : Source) (picks : List PickPlan) (rows : List Row) (line : List Cell) :
    Prop where
  key_mem : line.headD .null ∈ rows.map key.cell
  line_eq : line = line.headD .null ::
    picks.map fun pick => pick.maximum (membersOf key rows (line.headD .null))

/-- The row of a key. -/
def groupLine (key : Source) (picks : List PickPlan) (rows : List Row) (k : Cell) : List Cell :=
  ((speaker? picks (membersOf key rows k)).map key.cell).getD .null ::
    picks.map fun pick => pick.maximum (membersOf key rows k)

theorem pivotRows_eq (key : Source) (picks : List PickPlan) (rows : List Row) :
    pivotRows key key picks rows = (sortedKeys key rows).map (groupLine key picks rows) := rfl

section

variable {key : Source} {picks : List PickPlan} {rows : List Row}

theorem groupLine_spec {k : Cell} (hk : k ∈ sortedKeys key rows) :
    k.same ((groupLine key picks rows k).headD .null) = true ∧
      IsGroup key picks rows (groupLine key picks rows k) := by
  obtain ⟨member, hmember, rfl⟩ : ∃ member ∈ rows, key.cell member = k := by
    have hdistinct := List.mem_mergeSort.1 hk
    simpa using mem_of_mem_distinctCells hdistinct
  have hmembers : (membersOf key rows (key.cell member)) ≠ [] :=
    List.ne_nil_of_mem (List.mem_filter.2 ⟨hmember, Cell.same_refl _⟩)
  -- the row that speaks for a group may spell its key otherwise than the sorted key does
  obtain ⟨row, hrow, hspeaker⟩ := exists_speaker picks hmembers
  obtain ⟨hrows, hsame⟩ := List.mem_filter.1 hrow
  have hgroup : membersOf key rows (key.cell row) = membersOf key rows (key.cell member) := by
    unfold membersOf
    simp only [Cell.same_congr hsame]
  have hhead : (groupLine key picks rows (key.cell member)).headD .null = key.cell row := by
    simp [groupLine, hspeaker]
  rw [hhead]
  refine ⟨hsame, ?_, ?_⟩
  · rw [hhead]
    exact List.mem_map_of_mem hrows
  · rw [hhead, hgroup, groupLine, hspeaker]
    rfl

theorem isGroup_of_mem {line : List Cell} (h : line ∈ pivotRows key key picks rows) :
    IsGroup key picks rows line := by
  rw [pivotRows_eq] at h
  obtain ⟨k, hk, rfl⟩ := List.mem_map.1 h
  exact (groupLine_spec hk).2

/-- Keys ascend from row to row. -/
theorem pairwise_pivotRows : (pivotRows key key picks rows).Pairwise fun line next =>
    (line.headD .null).compare (next.headD .null) = .lt := by
  rw [pivotRows_eq, List.pairwise_map]
  refine (pairwise_sortedKeys key rows).imp_of_mem fun hk hnext hless => ?_
  rw [← Cell.compare_congr (groupLine_spec hk).1 (groupLine_spec hnext).1]
  exact hless

/-- Every key has a row. -/
theorem exists_line {row : Row} (h : row ∈ rows) :
    ∃ line ∈ pivotRows key key picks rows, (line.headD .null).same (key.cell row) = true := by
  obtain ⟨k, hk, hsame⟩ := exists_same_distinctCells (List.mem_map_of_mem (f := key.cell) h)
  have hsorted : k ∈ sortedKeys key rows := List.mem_mergeSort.2 hk
  rw [pivotRows_eq]
  refine ⟨_, List.mem_map_of_mem hsorted, ?_⟩
  exact Cell.same_trans (Cell.same_symm (groupLine_spec hsorted).1) hsame

end

end Crosstab.Engine

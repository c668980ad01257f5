import Crosstab.Engine.Execution

/-!
# The names of the columns of a created table

A table that is created from a query gets the names of the query's columns where they differ, and
other names where they are words for truth or taken. If they differ, the words for truth are the
only names that are lost.
-/

namespace Crosstab.Engine

/-- The name is a word for truth. -/
def namesTruth (name : String) : Bool :=
  ["true", "false"].any fun word => Text.sameButCase word name

theorem soundName_eq (position : Nat) (name : String) :
    soundName position name = if namesTruth name then s!"column{position}" else name := rfl

/-- A word for truth has the letters of one, in some case. -/
theorem toUpper_of_namesTruth {name : String} (h : namesTruth name = true) :
    name.toList.map Char.toUpper ∈ ["TRUE".toList, "FALSE".toList] := by
  simp only [namesTruth, List.any_cons, List.any_nil, Bool.or_false, Bool.or_eq_true,
    Text.sameButCase, beq_iff_eq] at h
  rcases h with h | h
  · exact h ▸ by decide
  · exact h ▸ by decide

theorem colon_not_mem {name : String} (h : namesTruth name = true) : ':' ∉ name.toList := by
  intro hmem
  have hupper : ':' ∈ name.toList.map Char.toUpper := List.mem_map_of_mem (f := Char.toUpper) hmem
  have hwords := toUpper_of_namesTruth h
  simp only [List.mem_cons, List.not_mem_nil, or_false] at hwords
  rcases hwords with hword | hword
  · rw [hword] at hupper
    exact absurd hupper (by decide)
  · rw [hword] at hupper
    exact absurd hupper (by decide)

/-- A name by position is no word for truth. -/
theorem not_namesTruth_column (position : Nat) : namesTruth s!"column{position}" = false := by
  have htext : (s!"column{position}").toList.map Char.toUpper =
      'C' :: ("OLUMN".toList ++ (toString position).toList.map Char.toUpper) := by
    have hsplit : s!"column{position}" = "column" ++ toString position := rfl
    rw [hsplit, String.toList_append, List.map_append]
    rfl
  refine Bool.eq_false_iff.2 fun htruth => ?_
  have hwords := toUpper_of_namesTruth htruth
  rw [htext] at hwords
  simp at hwords

/-! ### Free names -/

theorem freeName_of_free {taken : List String} {name : String}
    (h : ∀ other ∈ taken, Text.sameButCase other name = false) (bound number : Nat) :
    freeName taken bound number name = name := by
  cases bound with
  | zero => rfl
  | succ bound =>
    have hfree : (taken.any fun other => Text.sameButCase other name) = false :=
      List.any_eq_false.2 fun other hother => by simp [h other hother]
    unfold freeName
    rw [hfree]
    rfl

/-- A name that is not kept gets a number behind a colon. -/
theorem freeName_cases (taken : List String) (bound number : Nat) (name : String) :
    freeName taken bound number name = name ∨
      ':' ∈ (freeName taken bound number name).toList := by
  induction bound generalizing number name with
  | zero => exact .inl rfl
  | succ bound ih =>
    unfold freeName
    split
    · refine .inr ?_
      rcases ih (number + 1) (String.ofList (withoutNumber name.toList) ++ ":" ++ toString number)
        with hkept | hcolon
      · rw [hkept]
        simp
      · exact hcolon
    · exact .inl rfl

/-! ### Distinct names -/

/-- A name that is free is kept exactly if it is no word for truth. -/
theorem freeName_soundName_iff {taken : List String} {name : String}
    (h : ∀ other ∈ taken, Text.sameButCase other name = false) (bound number position : Nat) :
    freeName taken bound number (soundName position name) = name ↔ namesTruth name = false := by
  constructor
  · intro hname
    refine Bool.eq_false_iff.2 fun htruth => ?_
    rw [soundName_eq, if_pos htruth] at hname
    -- neither the name by position nor one with a number behind a colon is a word for truth
    rcases freeName_cases taken bound number s!"column{position}" with hcolumn | hcolon
    · have hfalse := not_namesTruth_column position
      rw [← hcolumn, hname, htruth] at hfalse
      cases hfalse
    · rw [hname] at hcolon
      exact colon_not_mem htruth hcolon
  · intro hfalse
    rw [soundName_eq, if_neg (by simp [hfalse])]
    exact freeName_of_free h _ _

/-- Names that differ are kept exactly if none of them is a word for truth. -/
theorem map_name_distinctNames {columns : List Column} {taken : List String}
    (hdistinct : (columns.map Column.name).Pairwise fun name other =>
      Text.sameButCase name other = false)
    (htaken : ∀ other ∈ taken, ∀ column ∈ columns, Text.sameButCase other column.name = false)
    (position : Nat) :
    (distinctNames taken position columns).map Column.name = columns.map Column.name ↔
      ∀ column ∈ columns, namesTruth column.name = false := by
  induction columns generalizing taken position with
  | nil => simp [distinctNames]
  | cons column columns ih =>
    obtain ⟨hfirst, hrest⟩ := List.pairwise_cons.1 hdistinct
    have hkept := freeName_soundName_iff
      (fun other hother => htaken other hother column List.mem_cons_self)
      (taken.length + 1) 1 position
    have htaken' : ∀ other ∈ column.name :: taken, ∀ next ∈ columns,
        Text.sameButCase other next.name = false := by
      intro other hother next hnext
      rcases List.mem_cons.1 hother with rfl | hother
      · exact hfirst next.name (List.mem_map_of_mem hnext)
      · exact htaken other hother next (List.mem_cons_of_mem _ hnext)
    unfold distinctNames
    dsimp only
    rw [List.map_cons, List.map_cons, List.cons.injEq, List.forall_mem_cons, hkept]
    -- behind a name that is kept, the others have one more name to differ from
    refine and_congr_right fun hfalse => ?_
    rw [hkept.2 hfalse]
    exact ih hrest htaken' (position + 1)

/-- Columns keep their affinities. -/
theorem map_affinity_distinctNames (columns : List Column) (taken : List String)
    (position : Nat) :
    (distinctNames taken position columns).map Column.affinity =
      columns.map Column.affinity := by
  induction columns generalizing taken position with
  | nil => rfl
  | cons column columns ih =>
    unfold distinctNames
    dsimp only
    rw [List.map_cons, List.map_cons, ih]

end Crosstab.Engine

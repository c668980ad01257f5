import Crosstab.Proofs.Engine.ColumnNames
import Mathlib.Data.List.Nodup
import Mathlib.Data.List.Perm.Subperm

/-!
# Names that differ

The columns of a created table have names that differ, whatever names the query asks for: a name
that is taken gets a number behind its stem, and among one more number than there are names taken
one is free. So a table has the names that are asked for only if these differ to begin with.
-/

namespace Crosstab.Engine

/-! ### Case -/

/-- The form in which names are compared. -/
def upperCase (name : String) : List Char := name.toList.map Char.toUpper

theorem sameButCase_iff {name other : String} :
    Text.sameButCase name other = true ↔ upperCase name = upperCase other :=
  beq_iff_eq

/-- The names differ for the engine. -/
def Differ (name other : String) : Prop := Text.sameButCase name other = false

theorem differ_iff {name other : String} : Differ name other ↔ upperCase name ≠ upperCase other := by
  rw [Differ, Bool.eq_false_iff, Ne, sameButCase_iff]

theorem toUpper_of_isDigit {c : Char} (h : c.isDigit = true) : c.toUpper = c := by
  unfold Char.toUpper
  apply dif_neg
  rintro ⟨hlower, -⟩
  simp only [Char.isDigit, Bool.and_eq_true, decide_eq_true_eq, UInt32.le_iff_toNat_le,
    ge_iff_le] at h hlower
  have hletter : 'a'.val.toNat = 97 := rfl
  have hdigit : '9'.val.toNat = 57 := rfl
  omega

/-! ### Free names -/

/-- A name is free if it differs from all that are taken. -/
def IsFree (taken : List String) (name : String) : Prop := ∀ other ∈ taken, Differ other name

/-- A stem with a number behind a colon. -/
def candidate (stem : List Char) (number : Nat) : String :=
  String.ofList stem ++ ":" ++ toString number

theorem toList_candidate (stem : List Char) (number : Nat) :
    (candidate stem number).toList = stem ++ ':' :: Nat.toDigits 10 number := by
  simp [candidate, Nat.toString_eq_repr]

theorem isDigit_of_mem {number : Nat} {c : Char} (h : c ∈ Nat.toDigits 10 number) :
    c.isDigit = true :=
  Nat.isDigit_of_mem_toDigits (by decide) (by decide) h

theorem withoutNumber_candidate (stem : List Char) (number : Nat) :
    withoutNumber (candidate stem number).toList = stem := by
  have hdigits : ∀ c ∈ (Nat.toDigits 10 number).reverse, c.isDigit = true :=
    fun c hc => isDigit_of_mem (List.mem_reverse.1 hc)
  unfold withoutNumber
  rw [toList_candidate, List.reverse_append, List.reverse_cons, List.append_assoc,
    List.dropWhile_append_of_pos hdigits]
  simp

theorem candidate_injective {stem : List Char} {number other : Nat}
    (h : upperCase (candidate stem number) = upperCase (candidate stem other)) : number = other := by
  have hdigits (n : Nat) : (Nat.toDigits 10 n).map Char.toUpper = Nat.toDigits 10 n := by
    conv_rhs => rw [← List.map_id (Nat.toDigits 10 n)]
    exact List.map_congr_left fun c hc => toUpper_of_isDigit (isDigit_of_mem hc)
  unfold upperCase at h
  rw [toList_candidate, toList_candidate, List.map_append, List.map_append,
    List.append_cancel_left_eq, List.map_cons, List.map_cons, hdigits, hdigits] at h
  obtain ⟨-, hsame⟩ := List.cons.inj h
  rw [← @Nat.ofDigitChars_ten_toDigits number, hsame, Nat.ofDigitChars_ten_toDigits]

/-- Among one more number than there are names taken, one is free. -/
theorem exists_isFree_candidate (taken : List String) (stem : List Char) (first : Nat) :
    ∃ number, first ≤ number ∧ number ≤ first + taken.length ∧
      IsFree taken (candidate stem number) := by
  by_contra hnone
  have hnodup : ((List.range' first (taken.length + 1)).map fun number =>
      upperCase (candidate stem number)).Nodup :=
    (List.nodup_range').map fun _ _ => candidate_injective
  have hsubset : ((List.range' first (taken.length + 1)).map fun number =>
      upperCase (candidate stem number)) ⊆ taken.map upperCase := by
    intro name hname
    obtain ⟨number, hnumber, rfl⟩ := List.mem_map.1 hname
    rw [List.mem_range'_1] at hnumber
    by_contra hfree
    refine hnone ⟨number, hnumber.1, by omega, fun other hother => differ_iff.2 ?_⟩
    intro hsame
    exact hfree (hsame ▸ List.mem_map_of_mem hother)
  have hlength := (hnodup.subperm hsubset).length_le
  rw [List.length_map, List.length_map, List.length_range'] at hlength
  omega

/-- The first number that is free is found. -/
theorem isFree_freeName_candidate {taken : List String} {stem : List Char} {bound number : Nat}
    (h : ∃ free, number ≤ free ∧ free ≤ number + bound ∧ IsFree taken (candidate stem free)) :
    IsFree taken (freeName taken bound (number + 1) (candidate stem number)) := by
  induction bound generalizing number with
  | zero =>
    obtain ⟨free, hle, hge, hfree⟩ := h
    obtain rfl : free = number := by omega
    exact hfree
  | succ bound ih =>
    unfold freeName
    split
    · next htaken =>
      rw [withoutNumber_candidate]
      apply ih
      obtain ⟨free, hle, hge, hfree⟩ := h
      refine ⟨free, ?_, by omega, hfree⟩
      -- the number itself is taken, so it is a later one
      have hne : free ≠ number := by
        rintro rfl
        obtain ⟨other, hother, hsame⟩ := List.any_eq_true.1 htaken
        exact Bool.false_ne_true ((hfree other hother).symm.trans hsame)
      omega
    · next hfree =>
      intro other hother
      exact Bool.eq_false_iff.2 fun hsame => hfree (List.any_eq_true.2 ⟨other, hother, hsame⟩)

theorem isFree_freeName (taken : List String) (name : String) :
    IsFree taken (freeName taken (taken.length + 1) 1 name) := by
  unfold freeName
  split
  · exact isFree_freeName_candidate (exists_isFree_candidate taken _ 1)
  · next hfree =>
    intro other hother
    exact Bool.eq_false_iff.2 fun hsame => hfree (List.any_eq_true.2 ⟨other, hother, hsame⟩)

/-! ### Names of columns -/

/-- The names of the columns of a table differ, and from all that were taken before. -/
theorem differ_distinctNames (columns : List Column) (taken : List String) (position : Nat) :
    ((distinctNames taken position columns).map Column.name).Pairwise Differ ∧
      ∀ name ∈ (distinctNames taken position columns).map Column.name, IsFree taken name := by
  induction columns generalizing taken position with
  | nil => exact ⟨List.Pairwise.nil, nofun⟩
  | cons column columns ih =>
    have hfirst := isFree_freeName taken (soundName position column.name)
    unfold distinctNames
    dsimp only
    generalize freeName taken (taken.length + 1) 1 (soundName position column.name) = name at hfirst
    obtain ⟨hpairwise, hfree⟩ := ih (name :: taken) (position + 1)
    rw [List.map_cons]
    constructor
    · apply List.Pairwise.cons _ hpairwise
      intro other hother
      exact hfree other hother name List.mem_cons_self
    · intro other hother
      rcases List.mem_cons.1 hother with rfl | hother
      · exact hfirst
      · exact fun old hold => hfree other hother old (List.mem_cons_of_mem _ hold)

/-- The columns have the names that are asked for exactly if these differ, and are no words for
truth. -/
theorem names_distinctNames_iff (taken : List String) (position : Nat) (columns : List Column) :
    (distinctNames taken position columns).map Column.name = columns.map Column.name ↔
      (columns.map Column.name).Pairwise Differ ∧
      (∀ name ∈ columns.map Column.name, IsFree taken name) ∧
      ∀ name ∈ columns.map Column.name, namesTruth name = false := by
  obtain ⟨hpairwise, hfree⟩ := differ_distinctNames columns taken position
  constructor
  · intro hnames
    rw [hnames] at hpairwise hfree
    have htaken : ∀ other ∈ taken, ∀ column ∈ columns,
        Text.sameButCase other column.name = false :=
      fun other hother column hcolumn => hfree _ (List.mem_map_of_mem hcolumn) other hother
    refine ⟨hpairwise, hfree, ?_⟩
    rw [List.forall_mem_map]
    exact (map_name_distinctNames hpairwise htaken position).1 hnames
  · rintro ⟨hdiffer, hnew, htruth⟩
    refine (map_name_distinctNames hdiffer ?_ position).2 (List.forall_mem_map.1 htruth)
    exact fun other hother column hcolumn => hnew _ (List.mem_map_of_mem hcolumn) other hother

/-- The first column has its name unless that is a word for truth; the others have to differ from
it, too. -/
theorem distinctNames_cons (key : Column) (columns : List Column) :
    distinctNames [] 1 (key :: columns) = { key with name := soundName 1 key.name } ::
      distinctNames [soundName 1 key.name] 2 columns := rfl

theorem names_behind_iff (head : String) (columns : List String) (position : Nat) :
    (distinctNames [head] position (columns.map fun column => (⟨column, .none⟩ : Column))).map
        Column.name = columns ↔
      (head :: columns).Pairwise Differ ∧ ∀ column ∈ columns, namesTruth column = false := by
  have hcolumns : (columns.map fun column => (⟨column, .none⟩ : Column)).map Column.name =
      columns := by
    rw [List.map_map]
    exact List.map_id columns
  have hiff := names_distinctNames_iff [head] position
    (columns.map fun column => (⟨column, .none⟩ : Column))
  rw [hcolumns] at hiff
  rw [hiff, List.pairwise_cons]
  simp only [IsFree, List.mem_singleton, forall_eq]
  tauto

end Crosstab.Engine

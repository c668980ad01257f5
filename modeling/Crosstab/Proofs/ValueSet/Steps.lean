import Crosstab.Proofs.Decimal.Rounding
import Crosstab.Proofs.ValueSet

/-!
# Sets of values under steps

A set is built in steps: each inserts a value or skips a NULL. All that an insert looks for is an
equal value that was inserted before, and its answer says whether there was none.

    steps ──run──▶ answers, set          set.values = the values whose inserts were answered by yes

What holds of a set after any steps is kept by one more step, so it is proved for a step and then,
by induction from the last step, for all of them.
-/

namespace Crosstab

/-! ### Equal values -/

/-- Values are equal if they have one type and are the same in it. For reals that is equality as
IEEE numbers: the two zeros are equal, and NaN is equal to nothing. -/
inductive Value.Equal : Value → Value → Prop where
  | integer (n : Int64) : Equal (.integer n) (.integer n)
  | text (s : String) : Equal (.text s) (.text s)
  | real {x : Binary64} (number : x.isNaN = false) : Equal (.real x) (.real x)
  | zero {x y : Binary64} (hx : x.rank = 0) (hy : y.rank = 0) : Equal (.real x) (.real y)

namespace Binary64

/-- Only the two zeros share a signed rank. -/
theorem eq_or_zero_of_signedRank {x y : Binary64} (h : x.signedRank = y.signedRank) :
    x = y ∨ x.rank = 0 ∧ y.rank = 0 := by
  by_cases hzero : x.rank = 0 ∧ y.rank = 0
  · exact .inr hzero
  · left
    -- a rank that is not zero has a sign
    obtain ⟨hsign, hrank⟩ : x.isNegative = y.isNegative ∧ x.rank = y.rank := by
      unfold signedRank at h
      cases hx : x.isNegative <;> cases hy : y.isNegative <;> simp [hx, hy] at h ⊢ <;> omega
    calc x = ofRank x.isNegative x.rank := (ofRank_rank x).symm
      _ = ofRank y.isNegative y.rank := by rw [hsign, hrank]
      _ = y := ofRank_rank y

theorem signedRank_eq_zero {x : Binary64} (h : x.rank = 0) : x.signedRank = 0 := by
  unfold signedRank
  split <;> simp [h]

theorem isNaN_of_rank_eq_zero {x : Binary64} (h : x.rank = 0) : x.isNaN = false := by
  unfold isNaN
  rw [h]
  rfl

end Binary64

theorem Value.same_iff_equal {v w : Value} : v.same w = true ↔ v.Equal w := by
  constructor
  · intro hsame
    cases v with
    | integer n =>
      cases w with
      | integer m =>
        obtain rfl : n = m := beq_iff_eq.1 hsame
        exact .integer n
      | _ => cases hsame
    | text s =>
      cases w with
      | text t =>
        obtain rfl : s = t := beq_iff_eq.1 hsame
        exact .text s
      | _ => cases hsame
    | real x =>
      cases w with
      | real y =>
        obtain ⟨hnumber, -, hrank⟩ := same_real_iff.1 hsame
        rcases Binary64.eq_or_zero_of_signedRank hrank with rfl | ⟨hx, hy⟩
        · exact .real hnumber
        · exact .zero hx hy
      | _ => cases hsame
  · intro hequal
    cases hequal with
    | integer n => exact beq_self_eq_true n
    | text s => exact beq_self_eq_true s
    | real hnumber => exact same_real_iff.2 ⟨hnumber, hnumber, rfl⟩
    | zero hx hy =>
      refine same_real_iff.2 ⟨?_, ?_, ?_⟩
      · exact Binary64.isNaN_of_rank_eq_zero hx
      · exact Binary64.isNaN_of_rank_eq_zero hy
      · rw [Binary64.signedRank_eq_zero hx, Binary64.signedRank_eq_zero hy]

namespace ValueSet

/-! ### Steps -/

/-- What is done to a set. -/
inductive Step where
  | insert (value : Value)
  | skipNull

namespace Step

/-- The value that a step inserts. -/
def value? : Step → Option Value
  | .insert value => some value
  | .skipNull => none

/-- The step inserts a value. -/
def inserts (step : Step) : Bool := step.value?.isSome

/-- The value of a step that was answered by yes. -/
def added? : Step × Option Bool → Option Value
  | (.insert value, some true) => some value
  | _ => none

end Step

/-- Takes a step. An insert answers whether the value was added, and nothing else has an answer. -/
def take (set : ValueSet) : Step → Option Bool × ValueSet
  | .insert value => (some (set.insert value).1, (set.insert value).2)
  | .skipNull => (none, set.skipNull)

/-- Takes steps one by one and keeps their answers. -/
def run (set : ValueSet) : List Step → List (Option Bool) × ValueSet
  | [] => ([], set)
  | step :: steps =>
    let (answer, next) := set.take step
    let (answers, last) := next.run steps
    (answer :: answers, last)

/-- The last of many steps is taken by the set that the others make. -/
theorem run_concat (set : ValueSet) (steps : List Step) (last : Step) :
    set.run (steps ++ [last]) =
      let (answers, next) := set.run steps
      (answers ++ [(next.take last).1], (next.take last).2) := by
  induction steps generalizing set with
  | nil => rfl
  | cons step steps ih =>
    show ((set.take step).1 :: ((set.take step).2.run (steps ++ [last])).1,
      ((set.take step).2.run (steps ++ [last])).2) = _
    rw [ih]
    rfl

/-- The set of a list is what inserting its elements one by one makes of the empty set. -/
theorem ofList_eq_run (values : List Value) :
    ofList values = (empty.run (values.map .insert)).2 := by
  unfold ofList
  generalize empty = set
  induction values generalizing set with
  | nil => rfl
  | cons value values ih => exact ih (set.insert value).2

/-! ### What steps keep -/

/-- What is known of a set after steps, and of their answers. -/
structure Account (steps : List Step) (answers : List (Option Bool)) (set : ValueSet) : Prop where
  length_eq : answers.length = steps.length
  /-- The values are those that were inserted, each where it came first. -/
  firsts_eq : set.values = Value.firsts (steps.filterMap Step.value?)
  /-- They are the values whose inserts were answered by yes, in this order. -/
  values_eq : set.values = (steps.zip answers).filterMap Step.added?
  /-- An insert is answered, and by no exactly if an equal value was inserted before. -/
  answered : ∀ i value, steps[i]? = some (.insert value) →
    ∃ added, answers[i]? = some (some added) ∧
      (added = false ↔ ∃ earlier, .insert earlier ∈ steps.take i ∧ earlier.Equal value)
  /-- Every insert added a value or was answered by no. -/
  size_eq : steps.countP Step.inserts = set.size + answers.count (some false)
  skipped_eq : set.skippedNulls = steps.countP fun step => !step.inserts

variable {steps : List Step} {answers : List (Option Bool)} {set : ValueSet}

theorem mem_filterMap_value? {value : Value} :
    value ∈ steps.filterMap Step.value? ↔ .insert value ∈ steps := by
  rw [List.mem_filterMap]
  constructor
  · rintro ⟨step, hstep, hvalue⟩
    cases step with
    | insert other =>
      obtain rfl : other = value := Option.some.inj hvalue
      exact hstep
    | skipNull => cases hvalue
  · exact fun hstep => ⟨_, hstep, rfl⟩

/-- A value is in the set if an equal one was inserted. -/
theorem Account.contains_iff (h : Account steps answers set) {value : Value} :
    set.contains value = true ↔ ∃ earlier, .insert earlier ∈ steps ∧ earlier.Equal value := by
  rw [contains_eq_any h.firsts_eq, List.any_eq_true]
  simp only [mem_filterMap_value?, Value.same_iff_equal]

theorem account_empty : Account [] [] empty where
  length_eq := rfl
  firsts_eq := rfl
  values_eq := rfl
  answered := by
    intro i value hstep
    cases hstep
  size_eq := rfl
  skipped_eq := rfl

theorem Account.zip_concat (h : Account steps answers set) (last : Step) (answer : Option Bool) :
    (steps ++ [last]).zip (answers ++ [answer]) = steps.zip answers ++ [(last, answer)] :=
  List.zip_append h.length_eq.symm

/-- What was answered before is not touched by one more step, and only an insert has to be answered
for. -/
theorem Account.answered_concat (h : Account steps answers set) {last : Step}
    {answer : Option Bool}
    (hlast : ∀ value, last = .insert value → ∃ added, answer = some added ∧
      (added = false ↔ ∃ earlier, .insert earlier ∈ steps ∧ earlier.Equal value)) :
    ∀ i value, (steps ++ [last])[i]? = some (.insert value) →
      ∃ added, (answers ++ [answer])[i]? = some (some added) ∧
        (added = false ↔
          ∃ earlier, .insert earlier ∈ (steps ++ [last]).take i ∧ earlier.Equal value) := by
  intro i value hstep
  rcases Nat.lt_trichotomy i steps.length with hlt | rfl | hgt
  · rw [List.getElem?_append_left hlt] at hstep
    rw [List.getElem?_append_left (h.length_eq ▸ hlt),
      List.take_append_of_le_length (Nat.le_of_lt hlt)]
    exact h.answered i value hstep
  · rw [List.getElem?_concat_length] at hstep
    obtain ⟨added, rfl, hiff⟩ := hlast value (Option.some.inj hstep)
    rw [← h.length_eq, List.getElem?_concat_length, h.length_eq, List.take_left']
    · exact ⟨added, rfl, hiff⟩
    · rfl
  · have hend : (steps ++ [last]).length ≤ i := by
      rw [List.length_append]
      exact hgt
    rw [List.getElem?_eq_none hend] at hstep
    cases hstep

theorem Account.insert (h : Account steps answers set) (value : Value) :
    Account (steps ++ [.insert value]) (answers ++ [some (set.insert value).1])
      (set.insert value).2 := by
  refine ⟨by simp [h.length_eq], ?_, ?_, ?_, ?_, ?_⟩
  · rw [List.filterMap_append]
    exact values_insert h.firsts_eq value
  · rw [h.zip_concat, List.filterMap_append, ← h.values_eq]
    unfold ValueSet.insert
    cases set.contains value with
    | true => exact (List.append_nil _).symm
    | false => rfl
  · apply h.answered_concat
    rintro _ ⟨⟩
    refine ⟨_, rfl, ?_⟩
    rw [insert_fst, ← h.contains_iff]
    simp
  · have hsize := h.size_eq
    unfold size at hsize ⊢
    rw [List.countP_append, List.count_append, hsize]
    unfold ValueSet.insert
    cases set.contains value <;> simp [Step.inserts, Step.value?] <;> omega
  · rw [skippedNulls_insert, h.skipped_eq, List.countP_append]
    rfl

theorem Account.skipNull (h : Account steps answers set) :
    Account (steps ++ [.skipNull]) (answers ++ [none]) set.skipNull := by
  refine ⟨by simp [h.length_eq], ?_, ?_, ?_, ?_, ?_⟩
  · rw [List.filterMap_append]
    exact h.firsts_eq.trans (congrArg Value.firsts (List.append_nil _).symm)
  · rw [h.zip_concat, List.filterMap_append]
    exact h.values_eq.trans (List.append_nil _).symm
  · apply h.answered_concat
    intro value hskip
    cases hskip
  · rw [List.countP_append, List.count_append, h.size_eq]
    rfl
  · rw [List.countP_append, ← h.skipped_eq]
    rfl

/-- One more step keeps the account. -/
theorem Account.take (h : Account steps answers set) (step : Step) :
    Account (steps ++ [step]) (answers ++ [(set.take step).1]) (set.take step).2 := by
  cases step with
  | insert value => exact h.insert value
  | skipNull => exact h.skipNull

theorem account_run (steps : List Step) :
    Account steps (empty.run steps).1 (empty.run steps).2 := by
  induction steps using List.reverseRecOn with
  | nil => exact account_empty
  | append_singleton steps last ih =>
    rw [run_concat]
    exact ih.take last

theorem values_ofList (values : List Value) : (ofList values).values = Value.firsts values := by
  have haccount := account_run (values.map .insert)
  have hvalues : (values.map Step.insert).filterMap Step.value? = values := by
    rw [List.filterMap_map]
    exact List.filterMap_some
  rw [ofList_eq_run, haccount.firsts_eq, hvalues]

/-- **Sets under steps.** Whatever steps a set has taken, its values differ from each other, and they
are those whose inserts were answered by yes. Collecting a list is inserting its elements, and
collecting the values of a set gives them back, so that not even a NaN is lost. -/
theorem run_accounts (steps : List Step) :
    Account steps (empty.run steps).1 (empty.run steps).2 ∧
      ((empty.run steps).2.values.Pairwise fun earlier later => ¬ earlier.Equal later) ∧
      (∀ values, ofList values = (empty.run (values.map .insert)).2) ∧
      (ofList (empty.run steps).2.values).values = (empty.run steps).2.values := by
  have haccount := account_run steps
  have hdistinct := Value.pairwise_firsts (steps.filterMap Step.value?)
  rw [← haccount.firsts_eq] at hdistinct
  refine ⟨haccount, ?_, ofList_eq_run, ?_⟩
  · apply hdistinct.imp
    intro earlier later hdiffer hequal
    rw [Value.same_iff_equal.2 hequal] at hdiffer
    cases hdiffer
  · rw [values_ofList]
    exact Value.firsts_eq_self hdistinct

-- zero, its negative, a NULL, and NaN twice
example : (empty.run [.insert (.real ⟨0⟩), .insert (.real ⟨0x8000000000000000⟩), .skipNull,
    .insert (.real ⟨0x7ff8000000000000⟩), .insert (.real ⟨0x7ff8000000000000⟩)]).1 =
    [some true, some false, none, some true, some true] := by decide

end ValueSet

end Crosstab

import Crosstab.ValueSet
import Mathlib.Data.List.Induction

/-!
# What a set of values holds

A set that takes values one by one holds the first occurrences: those that no value in front of
them is equal to, in the order in which they came. They differ from each other, and every value but
NaN that came has an equal one among them.

    values ──insert, one by one──▶ set          set.values = firsts values
-/

namespace Crosstab

/-! ### Equality by type -/

/-- A number that is NaN is equal to nothing; all other values are equal to themselves. -/
def Value.isNaN : Value → Bool
  | .real x => x.isNaN
  | _ => false

namespace Value

theorem same_real_iff {x y : Binary64} : (real x).same (real y) = true ↔
    x.isNaN = false ∧ y.isNaN = false ∧ x.signedRank = y.signedRank := by
  simp [same, Binary64.same, and_assoc]

theorem same_refl {v : Value} (h : v.isNaN = false) : v.same v = true := by
  cases v with
  | real x => exact same_real_iff.2 ⟨h, h, rfl⟩
  | integer n => exact beq_self_eq_true n
  | text s => exact beq_self_eq_true s

theorem same_symm {v w : Value} (h : v.same w = true) : w.same v = true := by
  cases v with
  | real x =>
    cases w with
    | real y =>
      obtain ⟨hx, hy, heq⟩ := same_real_iff.1 h
      exact same_real_iff.2 ⟨hy, hx, heq.symm⟩
    | _ => cases h
  | integer n =>
    cases w with
    | integer m => exact beq_iff_eq.2 (beq_iff_eq.1 h).symm
    | _ => cases h
  | text s =>
    cases w with
    | text t => exact beq_iff_eq.2 (beq_iff_eq.1 h).symm
    | _ => cases h

theorem same_trans {u v w : Value} (h : u.same v = true) (h' : v.same w = true) :
    u.same w = true := by
  cases v with
  | real y =>
    cases u with
    | real x =>
      cases w with
      | real z =>
        obtain ⟨hx, -, heq⟩ := same_real_iff.1 h
        obtain ⟨-, hz, heq'⟩ := same_real_iff.1 h'
        exact same_real_iff.2 ⟨hx, hz, heq.trans heq'⟩
      | _ => cases h'
    | _ => cases h
  | integer n =>
    cases u with
    | integer m =>
      obtain rfl : m = n := beq_iff_eq.1 h
      exact h'
    | _ => cases h
  | text t =>
    cases u with
    | text s =>
      obtain rfl : s = t := beq_iff_eq.1 h
      exact h'
    | _ => cases h

/-! ### First occurrences -/

/-- The values that none in front of them is equal to, in their order. -/
def firsts (values : List Value) : List Value :=
  (values.zipIdx.filter fun (value, i) =>
    !(values.take i).any fun earlier => earlier.same value).map Prod.fst

/-- The last value is a first occurrence if none in front of it is equal to it, and whether the
others are has nothing to do with it. -/
theorem firsts_concat (values : List Value) (last : Value) : firsts (values ++ [last]) =
    firsts values ++ if values.any (fun earlier => earlier.same last) then [] else [last] := by
  unfold firsts
  rw [List.zipIdx_append, List.filter_append, List.map_append]
  congr 1
  · refine congrArg _ (List.filter_congr ?_)
    rintro ⟨value, i⟩ hentry
    have hlt : i < values.length := by simpa using List.snd_lt_add_of_mem_zipIdx hentry
    dsimp only
    rw [List.take_append_of_le_length (Nat.le_of_lt hlt)]
  · cases h : values.any fun earlier => earlier.same last <;> simp [h]

/-- Looking among the first occurrences is as good as looking among all. -/
theorem any_firsts (values : List Value) (value : Value) :
    (firsts values).any (fun earlier => earlier.same value) =
      values.any fun earlier => earlier.same value := by
  induction values using List.reverseRecOn with
  | nil => rfl
  | append_singleton values last ih =>
    rw [firsts_concat, List.any_append, List.any_append, ih]
    by_cases hold : values.any (fun earlier => earlier.same last) = true
    · rw [if_pos hold, List.any_nil, Bool.or_false]
      -- what the last value is equal to, one in front of it is equal to already
      by_cases hlast : last.same value = true
      · obtain ⟨earlier, hearlier, hsame⟩ := List.any_eq_true.1 hold
        have hboth : earlier.same value = true := same_trans hsame hlast
        rw [List.any_eq_true.2 ⟨earlier, hearlier, hboth⟩]
        rfl
      · simp [hlast]
    · rw [if_neg hold]

theorem firsts_subset {values : List Value} {value : Value} (h : value ∈ firsts values) :
    value ∈ values := by
  obtain ⟨entry, hentry, rfl⟩ := List.mem_map.1 h
  exact List.fst_mem_of_mem_zipIdx (List.mem_filter.1 hentry).1

theorem pairwise_firsts (values : List Value) :
    (firsts values).Pairwise fun earlier later => earlier.same later = false := by
  induction values using List.reverseRecOn with
  | nil => exact .nil
  | append_singleton values last ih =>
    rw [firsts_concat]
    by_cases hold : values.any (fun earlier => earlier.same last) = true
    · rwa [if_pos hold, List.append_nil]
    · rw [if_neg hold]
      refine List.pairwise_append.2 ⟨ih, List.pairwise_singleton _ _, ?_⟩
      intro earlier hearlier later hlater
      obtain rfl := List.mem_singleton.1 hlater
      exact Bool.eq_false_iff.2 fun hsame =>
        hold (List.any_eq_true.2 ⟨earlier, firsts_subset hearlier, hsame⟩)

/-- Values that differ from each other are all first occurrences. -/
theorem firsts_eq_self {values : List Value}
    (h : values.Pairwise fun earlier later => earlier.same later = false) :
    firsts values = values := by
  induction values using List.reverseRecOn with
  | nil => rfl
  | append_singleton values last ih =>
    obtain ⟨hfront, -, hlast⟩ := List.pairwise_append.1 h
    have hnew : (values.any fun earlier => earlier.same last) = false :=
      List.any_eq_false.2 fun earlier hearlier =>
        Bool.eq_false_iff.1 (hlast earlier hearlier last List.mem_cons_self)
    rw [firsts_concat, hnew, ih hfront]
    rfl

/-- Every value but NaN has an equal one among the first occurrences. -/
theorem exists_same_firsts {values : List Value} {value : Value} (h : value ∈ values)
    (hnumber : value.isNaN = false) : ∃ first ∈ firsts values, first.same value = true := by
  rw [← List.any_eq_true, any_firsts]
  exact List.any_eq_true.2 ⟨value, h, same_refl hnumber⟩

end Value

namespace ValueSet

/-- A set of first occurrences looks as far back as to all values. -/
theorem contains_eq_any {set : ValueSet} {values : List Value}
    (h : set.values = Value.firsts values) (value : Value) :
    set.contains value = values.any fun earlier => earlier.same value := by
  rw [contains, h, Value.any_firsts]

/-- A set of first occurrences takes one value more. -/
theorem values_insert {set : ValueSet} {values : List Value} (h : set.values = Value.firsts values)
    (value : Value) : (set.insert value).2.values = Value.firsts (values ++ [value]) := by
  unfold insert
  rw [contains_eq_any h, Value.firsts_concat]
  cases values.any fun earlier => earlier.same value <;> simp [h]

/-- An insert answers whether the value is new. -/
theorem insert_fst (set : ValueSet) (value : Value) :
    (set.insert value).1 = !set.contains value := by
  unfold insert
  cases set.contains value <;> rfl

theorem skippedNulls_insert (set : ValueSet) (value : Value) :
    (set.insert value).2.skippedNulls = set.skippedNulls := by
  unfold insert
  split <;> rfl

end ValueSet

end Crosstab

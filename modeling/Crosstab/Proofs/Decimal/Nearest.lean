import Crosstab.Proofs.Decimal.Shortest
import Crosstab.Proofs.Engine.Order
import Mathlib.Algebra.Order.Field.Rat
import Mathlib.Algebra.Order.Group.Abs
import Mathlib.Tactic.FieldSimp
import Mathlib.Tactic.Linarith
import Mathlib.Tactic.Positivity

/-!
# Nearest numbers

What rounding is for, said without a word on how it is done: the nearest number to a quotient is
the one at the least distance, and of two at the same distance the one of even rank. An infinity
takes part in this with the value that the next rank would have, so a quotient far out of range is
nearest to it.

    quotient in the interval of a rank ──▶ the number of the rank is nearest

There is one nearest number, up to the sign of zero. The intervals leave no gap, so rounding finds
it.
-/

namespace Crosstab.Binary64

/-! ### Signs and ranks -/

theorem toNat_bits_ofRank (negative : Bool) (rank : Nat) :
    (ofRank negative rank).bits.toNat = rank % 2 ^ 63 + if negative then 2 ^ 63 else 0 := by
  unfold ofRank
  rw [UInt64.toNat_ofNat']
  split <;> omega

theorem rank_ofRank (negative : Bool) {rank : Nat} (h : rank < 2 ^ 63) :
    (ofRank negative rank).rank = rank := by
  unfold Binary64.rank
  rw [toNat_bits_ofRank]
  split <;> omega

theorem isNegative_ofRank (negative : Bool) (rank : Nat) :
    (ofRank negative rank).isNegative = negative := by
  unfold isNegative
  rw [toNat_bits_ofRank]
  cases negative with
  | true => simp
  | false =>
    simp only [Bool.false_eq_true, if_false, decide_eq_false_iff_not]
    omega

theorem rank_lt (x : Binary64) : x.rank < 2 ^ 63 := Nat.mod_lt _ (by decide)

theorem isNaN_eq_false_iff {x : Binary64} : x.isNaN = false ↔ x.rank ≤ infiniteRank := by
  simp [isNaN]

theorem isNaN_of_isFinite {x : Binary64} (h : x.isFinite = true) : x.isNaN = false :=
  isNaN_eq_false_iff.2 (Nat.le_of_lt (of_decide_eq_true h))

theorem rank_negated (x : Binary64) : x.negated.rank = x.rank := rank_ofRank _ x.rank_lt

theorem isNegative_negated (x : Binary64) :
    x.negated.isNegative = (x.rank != 0 && !x.isNegative) := isNegative_ofRank _ _

/-! ### Values -/

/-- The exact value of a number; that of an infinity is the one that the next rank would have. -/
def value (x : Binary64) : ℚ := x.units / 2 ^ 1074

theorem value_lt_iff {x y : Binary64} : x.value < y.value ↔ x.signedRank < y.signedRank := by
  rw [← units_lt_iff, value, value, div_lt_div_iff_of_pos_right (by positivity), Int.cast_lt]

theorem value_eq_iff {x y : Binary64} : x.value = y.value ↔ x.signedRank = y.signedRank := by
  have hlt := value_lt_iff (x := x) (y := y)
  have hgt := value_lt_iff (x := y) (y := x)
  rw [← not_iff_not]
  constructor
  · intro hne heq
    rcases lt_or_gt_of_ne hne with h | h
    · exact absurd (hlt.1 h) (by omega)
    · exact absurd (hgt.1 h) (by omega)
  · intro hne heq
    rw [heq] at hlt hgt
    simp only [lt_irrefl, false_iff] at hlt hgt
    omega

theorem value_negated (x : Binary64) : x.negated.value = -x.value := by
  unfold value units
  rw [rank_negated, isNegative_negated]
  by_cases hzero : x.rank = 0
  · have hunits : unitsOfRank 0 = 0 := rfl
    simp [hzero, hunits]
  · have hrank : (x.rank != 0) = true := bne_iff_ne.2 hzero
    rw [hrank]
    cases x.isNegative <;> simp [neg_div]

theorem same_iff_value {x y : Binary64} (hx : x.isNaN = false) (hy : y.isNaN = false) :
    x.same y = true ↔ x.value = y.value := by
  simp [same, hx, hy, value_eq_iff]

/-! ### Nearest numbers -/

/-- The number is nearest to a quotient: nothing is nearer, and anything else that is as near
leaves it to the number of even rank. -/
structure IsNearest (x : Binary64) (q : ℚ) : Prop where
  number : x.isNaN = false
  le : ∀ y : Binary64, y.isNaN = false → |q - x.value| ≤ |q - y.value|
  even : ∀ y : Binary64, y.isNaN = false → y.value ≠ x.value →
    |q - y.value| = |q - x.value| → x.rank % 2 = 0

/-- A number is nearest to its own value. -/
theorem isNearest_value {x : Binary64} (h : x.isNaN = false) : x.IsNearest x.value := by
  refine ⟨h, fun y _ => ?_, fun y _ hne heq => ?_⟩
  · rw [sub_self, abs_zero]
    exact abs_nonneg _
  · rw [sub_self, abs_zero, abs_eq_zero, sub_eq_zero] at heq
    exact absurd heq.symm hne

theorem IsNearest.negated {x : Binary64} {q : ℚ} (h : x.IsNearest q) :
    x.negated.IsNearest (-q) := by
  have hflip (y : Binary64) : |-q - y.value| = |q - y.negated.value| := by
    rw [value_negated, ← abs_neg]
    congr 1
    ring
  have hnumber {y : Binary64} (hy : y.isNaN = false) : y.negated.isNaN = false := by
    rwa [isNaN_eq_false_iff, rank_negated, ← isNaN_eq_false_iff]
  have hback : |-q - x.negated.value| = |q - x.value| := by
    rw [hflip, value_negated, value_negated, neg_neg]
  refine ⟨hnumber h.number, fun y hy => ?_, fun y hy hne heq => ?_⟩
  · rw [hback, hflip]
    exact h.le _ (hnumber hy)
  · rw [hback, hflip] at heq
    rw [rank_negated]
    refine h.even _ (hnumber hy) (fun hvalue => hne ?_) heq
    rw [value_negated] at hvalue ⊢
    rw [← hvalue, neg_neg]

theorem IsNearest.congr {x y : Binary64} {q : ℚ} (h : x.IsNearest q) (hsame : x.same y = true) :
    y.IsNearest q := by
  obtain ⟨⟨-, hy⟩, hrank⟩ : (x.isNaN = false ∧ y.isNaN = false) ∧ x.signedRank = y.signedRank := by
    simpa [same] using hsame
  have hvalue := value_eq_iff.2 hrank
  have hparity : x.rank % 2 = y.rank % 2 := by
    unfold signedRank at hrank
    split at hrank <;> split at hrank <;> omega
  refine ⟨hy, fun z hz => ?_, fun z hz hne heq => ?_⟩
  · rw [← hvalue]
    exact h.le z hz
  · rw [← hvalue] at hne heq
    rw [← hparity]
    exact h.even z hz hne heq

theorem exists_signedRank (rank : Int) (h : rank.natAbs ≤ infiniteRank) :
    ∃ x : Binary64, x.isNaN = false ∧ x.signedRank = rank := by
  have hbound : infiniteRank < 2 ^ 63 := by decide
  have hrank := rank_ofRank (decide (rank < 0)) (Nat.lt_of_le_of_lt h hbound)
  refine ⟨ofRank (decide (rank < 0)) rank.natAbs, by rwa [isNaN_eq_false_iff, hrank], ?_⟩
  rw [signedRank, isNegative_ofRank, hrank]
  split
  · next hnegative =>
    have := of_decide_eq_true hnegative
    omega
  · next hpositive =>
    have := of_decide_eq_false (Bool.eq_false_iff.2 hpositive)
    omega

/-- Between two numbers of even rank there is another one. -/
theorem exists_between {x y : Binary64} (hx : x.isNaN = false) (hy : y.isNaN = false)
    (hlt : x.value < y.value) (hevenX : x.rank % 2 = 0) (hevenY : y.rank % 2 = 0) :
    ∃ z : Binary64, z.isNaN = false ∧ x.value < z.value ∧ z.value < y.value := by
  rw [isNaN_eq_false_iff] at hx hy
  have hsignedX : x.signedRank = x.rank ∨ x.signedRank = -x.rank := by
    unfold signedRank
    split <;> simp
  have hsignedY : y.signedRank = y.rank ∨ y.signedRank = -y.rank := by
    unfold signedRank
    split <;> simp
  rw [value_lt_iff] at hlt
  -- the signed ranks are even too, so the one behind the first is not yet the second
  obtain ⟨z, hz, hrank⟩ := exists_signedRank (x.signedRank + 1) (by omega)
  exact ⟨z, hz, value_lt_iff.2 (by omega), value_lt_iff.2 (by omega)⟩

/-- There is one nearest number. -/
theorem IsNearest.value_unique {x y : Binary64} {q : ℚ} (hx : x.IsNearest q) (hy : y.IsNearest q) :
    x.value = y.value := by
  by_contra hne
  wlog hlt : x.value < y.value generalizing x y
  · exact this hy hx (Ne.symm hne) (lt_of_le_of_ne (not_lt.1 hlt) (Ne.symm hne))
  have hdistance : |q - x.value| = |q - y.value| :=
    le_antisymm (hx.le y hy.number) (hy.le x hx.number)
  obtain ⟨z, hz, hlow, hhigh⟩ := exists_between hx.number hy.number hlt
    (hx.even y hy.number (Ne.symm hne) hdistance.symm) (hy.even x hx.number hne hdistance)
  -- the quotient is the middle, and what is between the two is nearer to it than they are
  have hmiddle : 2 * q = x.value + y.value := by
    rcases abs_eq_abs.1 hdistance with h | h
    · exact absurd (by linarith) hne
    · linarith
  have hnearer := hx.le z hz
  rw [abs_of_pos (show 0 < q - x.value by linarith)] at hnearer
  exact absurd hnearer (not_le.2 (abs_lt.2 ⟨by linarith, by linarith⟩))

/-- Two quotients are rounded to the same number if one number is nearest to both. -/
theorem IsNearest.same_iff {x y : Binary64} {p q : ℚ} (hx : x.IsNearest p) (hy : y.IsNearest q) :
    x.same y = true ↔ ∃ z : Binary64, z.IsNearest p ∧ z.IsNearest q := by
  constructor
  · intro hsame
    exact ⟨y, hx.congr hsame, hy⟩
  · rintro ⟨z, hp, hq⟩
    apply (same_iff_value hx.number hy.number).2
    exact (hx.value_unique hp).trans (hq.value_unique hy)

/-! ### Intervals -/

/-- What lies between the middles to the left and to the right is nearest to the point in the
middle of them, and as near to another one only if it is one of the middles. -/
theorem nearest_of_between {q v lower upper y : ℚ} (hlow : lower + v ≤ 2 * q)
    (hhigh : 2 * q ≤ v + upper) (hy : y = v ∨ (y ≤ lower ∧ y < v) ∨ (upper ≤ y ∧ v < y)) :
    |q - v| ≤ |q - y| ∧
      (y ≠ v → |q - y| = |q - v| → 2 * q = lower + v ∨ 2 * q = v + upper) := by
  rcases hy with rfl | ⟨hle, hlt⟩ | ⟨hle, hlt⟩
  · exact ⟨le_refl _, fun hne => absurd rfl hne⟩
  · have hside : |q - y| = q - y := abs_of_pos (by linarith)
    rw [hside]
    refine ⟨abs_le.2 ⟨by linarith, by linarith⟩, fun hne heq => .inl ?_⟩
    rcases abs_cases (q - v) with ⟨habs, -⟩ | ⟨habs, -⟩ <;> linarith
  · have hside : |q - y| = y - q := by
      rw [abs_sub_comm]
      exact abs_of_pos (by linarith)
    rw [hside]
    refine ⟨abs_le.2 ⟨by linarith, by linarith⟩, fun hne heq => .inr ?_⟩
    rcases abs_cases (q - v) with ⟨habs, -⟩ | ⟨habs, -⟩ <;> linarith

/-- The magnitude of a rank. -/
def magnitude (rank : Nat) : ℚ := unitsOfRank rank / 2 ^ 1074

theorem value_eq_magnitude (x : Binary64) :
    x.value = if x.isNegative then -magnitude x.rank else magnitude x.rank := by
  unfold value units magnitude
  split <;> simp [neg_div]

theorem magnitude_le {r s : Nat} (h : r ≤ s) : magnitude r ≤ magnitude s := by
  unfold magnitude
  rw [div_le_div_iff_of_pos_right (by positivity)]
  exact_mod_cast strictMono_unitsOfRank.monotone h

theorem magnitude_lt {r s : Nat} (h : r < s) : magnitude r < magnitude s := by
  unfold magnitude
  rw [div_lt_div_iff_of_pos_right (by positivity)]
  exact_mod_cast strictMono_unitsOfRank h

theorem magnitude_nonneg (rank : Nat) : 0 ≤ magnitude rank := by
  unfold magnitude
  positivity

theorem magnitude_zero : magnitude 0 = 0 := by
  have hunits : unitsOfRank 0 = 0 := rfl
  simp [magnitude, hunits]

/-- A number lies at the magnitude of a rank, or not nearer than the neighbours on either side. -/
theorem value_cases (y : Binary64) (rank : Nat) :
    y.value = magnitude rank ∨ (y.value ≤ magnitude (rank - 1) ∧ y.value < magnitude rank) ∨
      (magnitude (rank + 1) ≤ y.value ∧ magnitude rank < y.value) := by
  rw [value_eq_magnitude]
  split
  · -- below zero there is only what lies to the left, but for the negative zero
    have hnonneg := magnitude_nonneg y.rank
    have hbelow := magnitude_nonneg (rank - 1)
    rcases Nat.eq_zero_or_pos rank with rfl | hpos
    · rcases Nat.eq_zero_or_pos y.rank with hzero | hpos
      · exact .inl (by rw [hzero, magnitude_zero, neg_zero])
      · have := magnitude_lt hpos
        exact .inr (.inl ⟨by linarith, by linarith⟩)
    · have := magnitude_lt hpos
      have := magnitude_nonneg 0
      exact .inr (.inl ⟨by linarith, by linarith⟩)
  · rcases Nat.lt_trichotomy y.rank rank with h | h | h
    · exact .inr (.inl ⟨magnitude_le (by omega), magnitude_lt h⟩)
    · exact .inl (h ▸ rfl)
    · exact .inr (.inr ⟨magnitude_le h, magnitude_lt h⟩)

theorem twice_div (num : Nat) {den : Nat} (hden : 0 < den) (places : Nat) :
    2 * (num / den : ℚ) = ((num * 2 ^ (places + 1) : Nat) : ℚ) / (den * 2 ^ places) := by
  have hpos : (0 : ℚ) < den := by exact_mod_cast hden
  rw [Nat.cast_mul, Nat.cast_pow, Nat.cast_ofNat, pow_succ]
  field_simp

/-- An interval in terms of magnitudes. -/
theorem RoundsTo.between {rank num den : Nat} (hden : 0 < den) (h : RoundsTo rank num den) :
    magnitude (rank - 1) + magnitude rank ≤ 2 * (num / den) ∧
      2 * (num / den) ≤ magnitude rank + magnitude (rank + 1) ∧
      (2 * (num / den : ℚ) = magnitude (rank - 1) + magnitude rank ∨
        2 * (num / den : ℚ) = magnitude rank + magnitude (rank + 1) → rank % 2 = 0) := by
  obtain ⟨hlow, hhigh, heven⟩ := roundsTo_iff.1 h
  have hpos : (0 : ℚ) < den := by exact_mod_cast hden
  have hscale : (0 : ℚ) < den * 2 ^ 1074 := by positivity
  -- everything over one denominator
  have hquotient : 2 * (num / den : ℚ) = ((num * 2 ^ 1075 : Nat) : ℚ) / (den * 2 ^ 1074) := by
    have hplaces : 1075 = 1074 + 1 := rfl
    rw [hplaces]
    exact twice_div num hden 1074
  have hsum (r s : Nat) : magnitude r + magnitude s =
      (((unitsOfRank r + unitsOfRank s) * den : Nat) : ℚ) / (den * 2 ^ 1074) := by
    rw [Nat.cast_mul, Nat.cast_add]
    unfold magnitude
    field_simp
  rw [hquotient, hsum, hsum, div_le_div_iff_of_pos_right hscale, div_le_div_iff_of_pos_right hscale,
    div_left_inj' hscale.ne', div_left_inj' hscale.ne', Nat.cast_le, Nat.cast_le, Nat.cast_inj,
    Nat.cast_inj]
  exact ⟨hlow, hhigh, fun htie => heven (htie.imp Eq.symm id)⟩

theorem value_ofRank (negative : Bool) {rank : Nat} (h : rank < 2 ^ 63) :
    (ofRank negative rank).value = if negative then -magnitude rank else magnitude rank := by
  rw [value_eq_magnitude, isNegative_ofRank, rank_ofRank negative h]

/-- **Intervals.** The number of a finite rank is nearest to every quotient in the interval of the
rank, and with a sign to the quotient with the sign. -/
theorem isNearest_of_roundsTo {rank num den : Nat} (hfinite : rank < infiniteRank)
    (hden : 0 < den) (h : RoundsTo rank num den) (negative : Bool) :
    (ofRank negative rank).IsNearest (if negative then -(num / den) else num / den) := by
  have hrank : rank < 2 ^ 63 := Nat.lt_trans hfinite (by decide)
  have hnumber (negative : Bool) : (ofRank negative rank).isNaN = false := by
    rw [isNaN_eq_false_iff, rank_ofRank negative hrank]
    exact Nat.le_of_lt hfinite
  obtain ⟨hlow, hhigh, heven⟩ := h.between hden
  have hpositive : (ofRank false rank).IsNearest (num / den) := by
    have hvalue : (ofRank false rank).value = magnitude rank := value_ofRank false hrank
    refine ⟨hnumber false, fun y _ => ?_, fun y _ hne heq => ?_⟩
    · rw [hvalue]
      exact (nearest_of_between hlow hhigh (value_cases y rank)).1
    · rw [hvalue] at hne heq
      rw [rank_ofRank false hrank]
      exact heven ((nearest_of_between hlow hhigh (value_cases y rank)).2 hne heq)
  cases negative with
  | false => exact hpositive
  | true =>
    refine hpositive.negated.congr ?_
    have hflipped : (ofRank false rank).negated.isNaN = false := hpositive.negated.number
    rw [same_iff_value hflipped (hnumber true), value_negated, value_ofRank _ hrank,
      value_ofRank _ hrank]
    rfl

/-! ### Rounding -/

theorem le_unitsOfRank (rank : Nat) : rank ≤ unitsOfRank rank := by
  induction rank with
  | zero => exact Nat.zero_le _
  | succ rank ih => exact Nat.succ_le_of_lt (Nat.lt_of_le_of_lt ih (unitsOfRank_lt_succ rank))

/-- What starts at or below a point and comes to lie above it passes it in one step. -/
theorem exists_passing {height : Nat → Nat} {point bound : Nat} (hzero : height 0 ≤ point)
    (hbound : point < height bound) : ∃ n, height n ≤ point ∧ point < height (n + 1) := by
  induction bound with
  | zero => omega
  | succ bound ih =>
    by_cases hle : height bound ≤ point
    · exact ⟨bound, hle, hbound⟩
    · exact ih (Nat.lt_of_not_le hle)

/-- The intervals of the ranks leave no gap: every quotient is in one of them. -/
theorem exists_roundsTo (num : Nat) {den : Nat} (hden : 0 < den) :
    ∃ rank, RoundsTo rank num den := by
  simp only [roundsTo_iff]
  generalize num * 2 ^ 1075 = point
  let lower (rank : Nat) : Nat := (unitsOfRank (rank - 1) + unitsOfRank rank) * den
  have hzero : lower 0 ≤ point := by
    have hunits : unitsOfRank 0 = 0 := rfl
    simp [lower, hunits]
  have hbound : point < lower (point + 1) := by
    have hle := le_unitsOfRank (point + 1)
    refine Nat.lt_of_lt_of_le ?_ (Nat.le_mul_of_pos_right _ hden)
    omega
  obtain ⟨rank, hlow, hhigh⟩ := exists_passing hzero hbound
  by_cases htie : lower rank = point ∧ rank % 2 = 1
  · -- the end of an odd rank belongs to the even rank before it
    obtain ⟨heq, hodd⟩ := htie
    obtain ⟨before, rfl⟩ := Nat.exists_eq_add_one_of_ne_zero (show rank ≠ 0 by omega)
    have hmono : lower before ≤ lower (before + 1) :=
      Nat.mul_le_mul_right den (Nat.add_le_add
        (strictMono_unitsOfRank.monotone (Nat.sub_le_sub_right (Nat.le_succ before) 1))
        (Nat.le_of_lt (unitsOfRank_lt_succ before)))
    exact ⟨before, heq ▸ hmono, Nat.le_of_eq heq.symm, fun _ => by omega⟩
  · refine ⟨rank, hlow, Nat.le_of_lt hhigh, fun hends => ?_⟩
    rcases hends with hlower | hupper
    · by_contra hodd
      exact htie ⟨hlower, by omega⟩
    · exact absurd hupper (Nat.ne_of_lt hhigh)

/-- **Rounding.** The rank that a quotient is rounded to, neither tiny nor huge, is the finite one
with the quotient in its interval. -/
theorem roundsTo_nearestRank {num den : Nat} (hden : 0 < den) (hlow : den ≤ num)
    (hhigh : num < 2 ^ 64 * den) :
    nearestRank num den < infiniteRank ∧ RoundsTo (nearestRank num den) num den := by
  obtain ⟨rank, hrounds⟩ := exists_roundsTo num hden
  obtain ⟨hlower, hupper, -⟩ := roundsTo_iff.1 hrounds
  have hpos : 0 < rank := by
    refine Nat.pos_of_ne_zero ?_
    rintro rfl
    have hunits : unitsOfRank 0 + unitsOfRank (0 + 1) = 1 := rfl
    rw [hunits, Nat.one_mul] at hupper
    have hgrow : num * 2 ≤ num * 2 ^ 1075 :=
      Nat.mul_le_mul_left num (Nat.le_self_pow (by decide) 2)
    generalize num * 2 ^ 1075 = point at *
    omega
  have hfinite : rank < infiniteRank := by
    have hunits : unitsOfRank rank * den < unitsOfRank infiniteRank * den := by
      rw [Decimal.unitsOfRank_infinite]
      calc unitsOfRank rank * den
          ≤ (unitsOfRank (rank - 1) + unitsOfRank rank) * den :=
            Nat.mul_le_mul_right den (Nat.le_add_left _ _)
        _ ≤ num * 2 ^ 1075 := hlower
        _ < 2 ^ 64 * den * 2 ^ 1075 := Nat.mul_lt_mul_of_pos_right hhigh (Nat.two_pow_pos _)
        _ = 2 ^ (64 + 1075) * den := by rw [Nat.mul_right_comm, ← Nat.pow_add]
        _ ≤ 2 ^ 2098 * den :=
            Nat.mul_le_mul_right den (Nat.pow_le_pow_right (by decide) (by decide))
    exact strictMono_unitsOfRank.lt_iff_lt.1 (Nat.lt_of_mul_lt_mul_right hunits)
  rw [nearestRank_eq hpos hfinite hden hrounds]
  exact ⟨hfinite, hrounds⟩

/-- A whole number of 64 bits other than zero is rounded to a finite number, the nearest one. -/
theorem ofInt_isNearest {n : Int} (hpos : n ≠ 0) (h : n.natAbs < 2 ^ 64) :
    (ofInt n).isFinite = true ∧ (ofInt n).IsNearest n := by
  have hnum : n.natAbs < 2 ^ 64 * 1 := by rwa [Nat.mul_one]
  obtain ⟨hfinite, hrounds⟩ := roundsTo_nearestRank Nat.one_pos (Int.natAbs_pos.2 hpos) hnum
  have hbound : infiniteRank < 2 ^ 63 := by decide
  constructor
  · unfold ofInt ofRatio isFinite
    rw [rank_ofRank _ (Nat.lt_trans hfinite hbound)]
    exact decide_eq_true hfinite
  · have hnearest := isNearest_of_roundsTo hfinite Nat.one_pos hrounds (decide (n < 0))
    have habs : (n.natAbs : ℚ) = |(n : ℚ)| := by rw [Nat.cast_natAbs, Int.cast_abs]
    rw [Nat.cast_one, div_one, habs] at hnearest
    by_cases hnegative : n < 0
    · have hcast : (n : ℚ) < 0 := Int.cast_lt_zero.2 hnegative
      rwa [if_pos (decide_eq_true hnegative), abs_of_neg hcast, neg_neg] at hnearest
    · have hcast : 0 ≤ (n : ℚ) := Int.cast_nonneg (Int.not_lt.1 hnegative)
      rwa [if_neg (by simpa using hnegative), abs_of_nonneg hcast] at hnearest

end Crosstab.Binary64

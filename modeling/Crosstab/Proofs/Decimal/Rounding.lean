import Crosstab.Decimal.Shortest
import Mathlib.Tactic.Ring

/-!
# Rounding to binary numbers

The interval of a rank is the set of quotients that are rounded to it. The ranks of one width of
steps are written `width * 2 ^ 52 + steps`, and the units of such a rank are `steps * 2 ^ width`;
the least rank of a width is also the first rank behind the greatest of the width before, and
there the lower half of the interval is half as long as the upper one.

    rank = width · 2⁵² + steps            units = steps · 2 ^ width
-/

namespace Crosstab.Binary64

open Decimal (Interval)

/-! ### Signs and ranks -/

/-- A number is made of its sign and its rank. -/
theorem ofRank_rank (x : Binary64) : ofRank x.isNegative x.rank = x := by
  obtain ⟨bits⟩ := x
  have hbits : bits.toNat < 2 ^ 64 := bits.toNat_lt
  have hparts :
      bits.toNat % 2 ^ 63 % 2 ^ 63 + (if decide (2 ^ 63 ≤ bits.toNat) then 2 ^ 63 else 0) =
      bits.toNat := by
    split
    · next h =>
      have := of_decide_eq_true h
      omega
    · next h =>
      have := of_decide_eq_false (Bool.eq_false_iff.2 h)
      omega
  unfold ofRank isNegative rank
  dsimp only
  rw [hparts, UInt64.ofNat_toNat]

/-! ### Half to even -/

/-- A whole number is the rounded quotient if the quotient is at most a half away from it, and a
half only if the number is even. -/
theorem roundHalfEven_eq {num den k : Nat} (hden : 0 < den)
    (hlow : 2 * (k * den) ≤ 2 * num + den) (hhigh : 2 * num ≤ 2 * (k * den) + den)
    (htie : 2 * (k * den) = 2 * num + den ∨ 2 * num = 2 * (k * den) + den → k % 2 = 0) :
    roundHalfEven num den = k := by
  have hnum : num / den * den + num % den = num := Nat.div_add_mod' num den
  have hrest : num % den < den := Nat.mod_lt num hden
  unfold roundHalfEven
  generalize num / den = low at *
  generalize num % den = rest at *
  -- only the quotient rounded down and the number behind it are near enough
  have hle : low ≤ k := by
    refine Nat.le_of_not_lt fun hlt => ?_
    have : (k + 1) * den ≤ low * den := Nat.mul_le_mul_right den hlt
    rw [Nat.add_mul] at this
    omega
  have hge : k ≤ low + 1 := by
    refine Nat.le_of_not_lt fun hlt => ?_
    have : (low + 2) * den ≤ k * den := Nat.mul_le_mul_right den hlt
    rw [Nat.add_mul] at this
    omega
  obtain rfl | rfl : k = low ∨ k = low + 1 := by omega
  · have hhalf : 2 * rest ≤ den := by omega
    simp only
    split
    · rfl
    · rw [if_pos (by omega)]
  · rw [Nat.add_mul, Nat.one_mul] at hlow hhigh htie
    simp only
    rw [if_neg (by omega), if_neg (by omega)]

/-! ### Ranks by the width of their steps -/

/-- Every rank has a width and a number of steps; a wide rank has a full leading bit. -/
theorem exists_steps (rank : Nat) : ∃ width steps, rank = width * 2 ^ 52 + steps ∧
    steps < 2 ^ 53 ∧ (width = 0 ∨ 2 ^ 52 ≤ steps) := by
  refine ⟨rank / 2 ^ 52 - 1, rank - (rank / 2 ^ 52 - 1) * 2 ^ 52, ?_, ?_, ?_⟩ <;> omega

theorem unitsOfRank_steps {width steps : Nat} (hsteps : steps ≤ 2 ^ 53)
    (hwide : width = 0 ∨ 2 ^ 52 ≤ steps) :
    unitsOfRank (width * 2 ^ 52 + steps) = steps * 2 ^ width := by
  unfold unitsOfRank
  by_cases hsmall : width * 2 ^ 52 + steps < 2 ^ 52
  · obtain rfl : width = 0 := by omega
    rw [if_pos hsmall]
    omega
  rw [if_neg hsmall]
  rcases Nat.lt_or_eq_of_le hsteps with hlt | rfl
  · have hmod : 2 ^ 52 + (width * 2 ^ 52 + steps) % 2 ^ 52 = steps := by omega
    have hdiv : (width * 2 ^ 52 + steps) / 2 ^ 52 - 1 = width := by omega
    rw [hmod, hdiv]
  · -- one step more than the width has: the first rank of the next width
    have hmod : 2 ^ 52 + (width * 2 ^ 52 + 2 ^ 53) % 2 ^ 52 = 2 ^ 52 := by omega
    have hdiv : (width * 2 ^ 52 + 2 ^ 53) / 2 ^ 52 - 1 = width + 1 := by omega
    rw [hmod, hdiv, Nat.pow_succ]
    omega

theorem unitsOfRank_lt_succ (rank : Nat) : unitsOfRank rank < unitsOfRank (rank + 1) := by
  obtain ⟨width, steps, rfl, hsteps, hwide⟩ := exists_steps rank
  rw [Nat.add_assoc, unitsOfRank_steps (by omega) hwide,
    unitsOfRank_steps (by omega) (by omega), Nat.add_mul]
  have := Nat.two_pow_pos width
  omega

theorem unitsOfRank_lt {r s : Nat} (h : r < s) : unitsOfRank r < unitsOfRank s := by
  obtain ⟨more, rfl⟩ := Nat.exists_eq_add_of_lt h
  clear h
  induction more with
  | zero => exact unitsOfRank_lt_succ r
  | succ more ih => exact Nat.lt_trans ih (unitsOfRank_lt_succ _)

theorem unitsOfRank_pos {rank : Nat} (h : 0 < rank) : 0 < unitsOfRank rank :=
  Nat.lt_of_le_of_lt (Nat.zero_le _) (unitsOfRank_lt h)

/-! ### Intervals -/

/-- The quotient `num / den` lies in the interval of a rank; it is the grid point `num` of a grid
with the step `1 / den`. -/
def RoundsTo (rank num den : Nat) : Prop :=
  (Interval.ofRank rank).holds (2 ^ 1075, den) num = true

theorem roundsTo_iff {rank num den : Nat} :
    RoundsTo rank num den ↔
      (unitsOfRank (rank - 1) + unitsOfRank rank) * den ≤ num * 2 ^ 1075 ∧
      num * 2 ^ 1075 ≤ (unitsOfRank rank + unitsOfRank (rank + 1)) * den ∧
      ((unitsOfRank (rank - 1) + unitsOfRank rank) * den = num * 2 ^ 1075 ∨
        num * 2 ^ 1075 = (unitsOfRank rank + unitsOfRank (rank + 1)) * den → rank % 2 = 0) := by
  unfold RoundsTo Interval.holds Interval.ofRank
  dsimp only
  generalize (unitsOfRank (rank - 1) + unitsOfRank rank) * den = lower
  generalize (unitsOfRank rank + unitsOfRank (rank + 1)) * den = upper
  generalize num * 2 ^ 1075 = point
  by_cases heven : rank % 2 = 0
  · simp [heven]
  · simp [heven]
    omega

/-- A quotient lies where it does in whatever terms it is written. -/
theorem RoundsTo.scale {rank num den factor : Nat} (hfactor : 0 < factor)
    (h : RoundsTo rank num den) : RoundsTo rank (num * factor) (den * factor) := by
  rw [roundsTo_iff] at h ⊢
  have hnum : num * factor * 2 ^ 1075 = num * 2 ^ 1075 * factor := Nat.mul_right_comm ..
  simp only [hnum, ← Nat.mul_assoc, Nat.mul_le_mul_right_iff hfactor,
    Nat.mul_left_inj (Nat.ne_of_gt hfactor)]
  exact h

theorem roundsTo_zero (den : Nat) : RoundsTo 0 0 den := by
  have hunits : unitsOfRank 0 = 0 := rfl
  rw [roundsTo_iff]
  simp [hunits]

theorem half_units (num : Nat) : num * 2 ^ 1075 = 2 * (num * 2 ^ 1074) := by
  rw [Nat.pow_succ, ← Nat.mul_assoc, Nat.mul_comm]

/-- The upper half of an interval is half a step. -/
theorem RoundsTo.upper {width steps num den : Nat} (hsteps : steps < 2 ^ 53)
    (hwide : width = 0 ∨ 2 ^ 52 ≤ steps) (h : RoundsTo (width * 2 ^ 52 + steps) num den) :
    2 * (num * 2 ^ 1074) ≤ 2 * (steps * (den * 2 ^ width)) + den * 2 ^ width ∧
      (2 * (num * 2 ^ 1074) = 2 * (steps * (den * 2 ^ width)) + den * 2 ^ width →
        steps % 2 = 0) := by
  obtain ⟨-, hhigh, htie⟩ := roundsTo_iff.1 h
  have hunits : (unitsOfRank (width * 2 ^ 52 + steps) +
      unitsOfRank (width * 2 ^ 52 + steps + 1)) * den =
      2 * (steps * (den * 2 ^ width)) + den * 2 ^ width := by
    rw [Nat.add_assoc, unitsOfRank_steps (Nat.le_of_lt hsteps) hwide,
      unitsOfRank_steps (by omega) (by omega)]
    ring
  rw [hunits, half_units] at hhigh htie
  refine ⟨hhigh, fun heq => ?_⟩
  have := htie (.inr heq)
  omega

/-- The lower half of an interval is half a step, but half of that where the width begins. -/
theorem RoundsTo.lower {width steps num den : Nat} (hpos : 0 < steps) (hsteps : steps < 2 ^ 53)
    (hwide : width = 0 ∨ 2 ^ 52 < steps) (h : RoundsTo (width * 2 ^ 52 + steps) num den) :
    2 * (steps * (den * 2 ^ width)) ≤ 2 * (num * 2 ^ 1074) + den * 2 ^ width ∧
      (2 * (steps * (den * 2 ^ width)) = 2 * (num * 2 ^ 1074) + den * 2 ^ width →
        steps % 2 = 0) := by
  obtain ⟨hlow, -, htie⟩ := roundsTo_iff.1 h
  obtain ⟨less, rfl⟩ : ∃ less, steps = less + 1 := ⟨steps - 1, by omega⟩
  have hunits : (unitsOfRank (width * 2 ^ 52 + (less + 1) - 1) +
      unitsOfRank (width * 2 ^ 52 + (less + 1))) * den + den * 2 ^ width =
      2 * ((less + 1) * (den * 2 ^ width)) := by
    rw [← Nat.add_assoc, Nat.add_sub_cancel, Nat.add_assoc,
      unitsOfRank_steps (by omega) (by omega), unitsOfRank_steps (by omega) (by omega)]
    ring
  -- the rank below is one step of the same width away
  rw [half_units] at hlow htie
  omega

/-- The interval of the first rank of a width reaches into the width before, half a step of that
below the rank. -/
theorem RoundsTo.lower_first {width num den : Nat}
    (h : RoundsTo ((width + 1) * 2 ^ 52 + 2 ^ 52) num den) :
    2 * (2 ^ 53 * (den * 2 ^ width)) ≤ 2 * (num * 2 ^ 1074) + den * 2 ^ width := by
  obtain ⟨hlow, -, -⟩ := roundsTo_iff.1 h
  have hunits : (unitsOfRank ((width + 1) * 2 ^ 52 + 2 ^ 52 - 1) +
      unitsOfRank ((width + 1) * 2 ^ 52 + 2 ^ 52)) * den + den * 2 ^ width =
      2 * (2 ^ 53 * (den * 2 ^ width)) := by
    have hprevious : (width + 1) * 2 ^ 52 + 2 ^ 52 - 1 = width * 2 ^ 52 + (2 ^ 53 - 1) := by omega
    rw [hprevious, unitsOfRank_steps (by omega) (by omega),
      unitsOfRank_steps (by omega) (by omega)]
    ring
  rw [half_units] at hlow
  omega

/-! ### Ranks of quotients -/

theorem log2_sub_eq {n width : Nat} (hhigh : n < 2 ^ (width + 53))
    (hlow : width = 0 ∨ 2 ^ (width + 52) ≤ n) : n.log2 - 52 = width := by
  by_cases hzero : n = 0
  · subst hzero
    rcases hlow with rfl | hlow
    · simp
    · have := Nat.two_pow_pos (width + 52)
      omega
  · have hlt := (Nat.log2_lt hzero).2 hhigh
    rcases hlow with rfl | hlow
    · omega
    · have := (Nat.le_log2 hzero).2 hlow
      omega

section Widths

variable {width steps units den : Nat}

theorem le_div_iff_steps (hden : 0 < den) (bits : Nat) :
    2 ^ (width + bits) ≤ units / den ↔ 2 ^ bits * (den * 2 ^ width) ≤ units := by
  rw [Nat.le_div_iff_mul_le hden, Nat.pow_add, Nat.mul_comm (2 ^ width), Nat.mul_assoc,
    Nat.mul_comm (2 ^ width)]

theorem div_lt_of_upper (hden : 0 < den) (hsteps : steps < 2 ^ 53)
    (hhigh : 2 * units ≤ 2 * (steps * (den * 2 ^ width)) + den * 2 ^ width) :
    units / den < 2 ^ (width + 53) := by
  refine Nat.lt_of_not_le fun hle => ?_
  have hstep : 0 < den * 2 ^ width := Nat.mul_pos hden (Nat.two_pow_pos width)
  have hreached := (le_div_iff_steps hden 53).1 hle
  have : (steps + 1) * (den * 2 ^ width) ≤ 2 ^ 53 * (den * 2 ^ width) :=
    Nat.mul_le_mul_right _ hsteps
  rw [Nat.add_mul] at this
  omega

theorem le_div_of_lower (hden : 0 < den) (hinside : 2 ^ 52 < steps)
    (hlow : 2 * (steps * (den * 2 ^ width)) ≤ 2 * units + den * 2 ^ width) :
    2 ^ (width + 52) ≤ units / den := by
  refine (le_div_iff_steps hden 52).2 ?_
  have : (2 ^ 52 + 1) * (den * 2 ^ width) ≤ steps * (den * 2 ^ width) :=
    Nat.mul_le_mul_right _ hinside
  omega

/-- On the steps of its own width a quotient is rounded to the number of steps. -/
theorem roundHalfEven_inside (hden : 0 < den) (hpos : 0 < width * 2 ^ 52 + steps)
    (hwide : width = 0 ∨ 2 ^ 52 ≤ steps)
    (hhigh : 2 * units ≤ 2 * (steps * (den * 2 ^ width)) + den * 2 ^ width)
    (htieHigh : 2 * units = 2 * (steps * (den * 2 ^ width)) + den * 2 ^ width → steps % 2 = 0)
    (hlow : 0 < steps → width = 0 ∨ 2 ^ 52 < steps →
      2 * (steps * (den * 2 ^ width)) ≤ 2 * units + den * 2 ^ width ∧
        (2 * (steps * (den * 2 ^ width)) = 2 * units + den * 2 ^ width → steps % 2 = 0))
    (hfull : width = 0 ∨ 2 ^ (width + 52) ≤ units / den) :
    roundHalfEven units (den * 2 ^ width) = steps := by
  have hstep : 0 < den * 2 ^ width := Nat.mul_pos hden (Nat.two_pow_pos width)
  by_cases hinside : width = 0 ∨ 2 ^ 52 < steps
  · obtain ⟨hlow, htieLow⟩ := hlow (by omega) hinside
    exact roundHalfEven_eq hstep hlow hhigh fun htie => htie.elim htieLow htieHigh
  · -- the first rank of a width, and the quotient is not below it
    obtain rfl : steps = 2 ^ 52 := by omega
    have hreached := (le_div_iff_steps hden 52).1 (hfull.resolve_left (by omega))
    exact roundHalfEven_eq hstep (by omega) hhigh fun _ => rfl

/-- Below the first rank of a width a quotient stands on the steps of the width before. -/
theorem roundHalfEven_before (hden : 0 < den)
    (hlow : 2 * (2 ^ 53 * (den * 2 ^ width)) ≤ 2 * units + den * 2 ^ width)
    (hbefore : ¬ 2 ^ (width + 53) ≤ units / den) :
    (units / den).log2 - 52 = width ∧ roundHalfEven units (den * 2 ^ width) = 2 ^ 53 := by
  have hstep : 0 < den * 2 ^ width := Nat.mul_pos hden (Nat.two_pow_pos width)
  have hcut : ¬ 2 ^ 53 * (den * 2 ^ width) ≤ units := fun hle =>
    hbefore ((le_div_iff_steps hden 53).2 hle)
  refine ⟨log2_sub_eq (Nat.lt_of_not_le hbefore) (.inr ((le_div_iff_steps hden 52).2 ?_)), ?_⟩
  · omega
  · exact roundHalfEven_eq hstep hlow (by omega) fun _ => rfl

end Widths

/-- **Nearest ranks.** A quotient in the interval of a finite rank is rounded to that rank. -/
theorem nearestRank_eq {rank num den : Nat} (hpos : 0 < rank) (hfinite : rank < infiniteRank)
    (hden : 0 < den) (h : RoundsTo rank num den) : nearestRank num den = rank := by
  have hcapped : min rank infiniteRank = rank := Nat.min_eq_left (Nat.le_of_lt hfinite)
  obtain ⟨width, steps, rfl, hsteps, hwide⟩ := exists_steps rank
  obtain ⟨hhigh, htieHigh⟩ := h.upper hsteps hwide
  have hlow := fun hpos hinside => h.lower hpos hsteps hinside
  unfold nearestRank
  -- the leading bit of the quotient decides on which steps it is rounded
  by_cases hfull : width = 0 ∨ 2 ^ (width + 52) ≤ num * 2 ^ 1074 / den
  · have hwidth := log2_sub_eq (div_lt_of_upper hden hsteps hhigh) hfull
    have hrounded := roundHalfEven_inside hden hpos hwide hhigh htieHigh hlow hfull
    simp only [hwidth, hrounded]
    exact hcapped
  · obtain ⟨hnarrow, hbefore⟩ := not_or.1 hfull
    obtain ⟨less, rfl⟩ := Nat.exists_eq_succ_of_ne_zero hnarrow
    -- the quotient can be below its width only if it belongs to the first rank there
    obtain rfl : steps = 2 ^ 52 := by
      refine Nat.le_antisymm (Nat.le_of_not_lt fun hinside => ?_) (hwide.resolve_left hnarrow)
      exact hbefore (le_div_of_lower hden hinside (hlow (by omega) (.inr hinside)).1)
    rw [Nat.succ_eq_add_one, Nat.add_assoc] at hbefore
    obtain ⟨hwidth, hrounded⟩ := roundHalfEven_before hden h.lower_first hbefore
    have hrank : less * 2 ^ 52 + 2 ^ 53 = less.succ * 2 ^ 52 + 2 ^ 52 := by
      rw [Nat.succ_mul, Nat.add_assoc, ← Nat.two_mul, ← Nat.pow_succ']
    simp only [hwidth, hrounded, hrank]
    exact hcapped

end Crosstab.Binary64

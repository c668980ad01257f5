import Crosstab.Proofs.Decimal.Rounding

/-!
# Shortest decimals round back

Whatever grid the search for a shortest decimal stops on, the point that it takes lies in the
interval of the number, so the decimal is rounded to the number that it was made for. The digits
are never none, and the power of ten of the leading digit is that of a finite number.
-/

namespace Crosstab.Decimal

open Binary64 (RoundsTo half_units roundsTo_iff unitsOfRank unitsOfRank_lt_succ unitsOfRank_pos)

/-- The quotient that a decimal is. -/
def Scientific.ratio (decimal : Scientific) : Nat × Nat :=
  if 0 ≤ decimal.exponent then (decimal.digits * 10 ^ decimal.exponent.toNat, 1)
  else (decimal.digits, 10 ^ (-decimal.exponent).toNat)

theorem Scientific.ratio_pos (decimal : Scientific) : 0 < decimal.ratio.2 := by
  unfold Scientific.ratio
  split
  · exact Nat.one_pos
  · exact Nat.pow_pos (by decide)

/-- The grid point of a decimal lies where its quotient does. -/
theorem holds_gridStep_iff {rank : Nat} (decimal : Scientific) :
    (Interval.ofRank rank).holds (gridStep decimal.exponent) decimal.digits = true ↔
      RoundsTo rank decimal.ratio.1 decimal.ratio.2 := by
  unfold RoundsTo gridStep Scientific.ratio
  split
  · simp only [Interval.holds, Nat.mul_assoc]
  · exact Iff.rfl

/-! ### The search -/

theorem holds_of_nearestOn {interval : Interval} {tie : Tie} {e : Int} {found : Scientific}
    (h : interval.nearestOn tie e = some found) :
    interval.holds (gridStep found.exponent) found.digits = true := by
  -- whichever neighbour on the grid is taken has been found in the interval before
  unfold Interval.nearestOn at h
  dsimp only at h
  split at h
  · cases h
  · next hbelow _ =>
    cases h
    exact hbelow
  · next _ habove =>
    cases h
    exact habove
  · next hbelow habove =>
    split at h
    · cases h
      exact hbelow
    split at h
    · cases h
      exact habove
    · cases tie with
      | up =>
        cases h
        exact habove
      | even =>
        cases h
        dsimp only
        split
        · exact hbelow
        · exact habove

theorem holds_of_searchDown {interval : Interval} {tie : Tie} {top : Int} {fuel : Nat}
    {found : Scientific} (h : searchDown interval tie top fuel = some found) :
    interval.holds (gridStep found.exponent) found.digits = true := by
  -- each failure goes on with a finer grid, and the first success ends the search
  induction fuel generalizing top with
  | zero => cases h
  | succ fuel ih =>
    rw [searchDown] at h
    split at h
    · next hnearest =>
      cases h
      exact holds_of_nearestOn hnearest
    · exact ih h

/-- The finest grid holds the number itself. -/
theorem roundsTo_exact {rank : Nat} (hpos : 0 < rank) :
    RoundsTo rank (unitsOfRank rank * 5 ^ 1074) (10 ^ 1074) := by
  have hbelow : unitsOfRank (rank - 1) < unitsOfRank rank := by
    have := unitsOfRank_lt_succ (rank - 1)
    rwa [Nat.sub_add_cancel hpos] at this
  have habove := unitsOfRank_lt_succ rank
  have hcentre : unitsOfRank rank * 5 ^ 1074 * 2 ^ 1075 = 2 * unitsOfRank rank * 10 ^ 1074 := by
    rw [half_units, Nat.mul_assoc, ← Nat.mul_pow, ← Nat.mul_assoc]
  have hscale : 0 < 10 ^ 1074 := Nat.pow_pos (by decide)
  rw [roundsTo_iff, hcentre]
  -- the number is the middle of an interval that reaches out on both sides
  generalize 10 ^ 1074 = scale at *
  have hlow : (unitsOfRank (rank - 1) + unitsOfRank rank) * scale <
      2 * unitsOfRank rank * scale := Nat.mul_lt_mul_of_pos_right (by omega) hscale
  have hhigh : 2 * unitsOfRank rank * scale <
      (unitsOfRank rank + unitsOfRank (rank + 1)) * scale :=
    Nat.mul_lt_mul_of_pos_right (by omega) hscale
  omega

/-- **Shortest decimals.** The shortest decimal of a rank is rounded to the rank. -/
theorem roundsTo_shortest (tie : Tie) {rank : Nat} (hpos : 0 < rank) :
    RoundsTo rank (shortest tie rank).ratio.1 (shortest tie rank).ratio.2 := by
  unfold shortest
  rw [if_neg (Nat.ne_of_gt hpos)]
  dsimp only
  generalize topExponent (unitsOfRank rank) = top
  rcases hsearch : searchDown (.ofRank rank) tie top (top + 1075).toNat with _ | found
  · exact roundsTo_exact hpos
  · exact (holds_gridStep_iff found).1 (holds_of_searchDown hsearch)

/-! ### The size of what is rounded -/

/-- A quotient with a positive rank is positive, and not less than half a unit. -/
theorem den_le_of_roundsTo {rank num den : Nat} (hpos : 0 < rank) (h : RoundsTo rank num den) :
    den ≤ num * 2 ^ 1075 := by
  obtain ⟨hlow, -, -⟩ := roundsTo_iff.1 h
  have hunits := unitsOfRank_pos hpos
  refine Nat.le_trans ?_ hlow
  exact Nat.le_mul_of_pos_left den (by omega)

theorem unitsOfRank_infinite : unitsOfRank Binary64.infiniteRank = 2 ^ 2098 := by
  have hwidth : Binary64.infiniteRank = 2045 * 2 ^ 52 + 2 ^ 53 := rfl
  rw [hwidth, Binary64.unitsOfRank_steps (Nat.le_refl _) (by omega), ← Nat.pow_add]

/-- A quotient with a finite rank is less than the first power of two that has none. -/
theorem num_lt_of_roundsTo {rank num den : Nat} (hfinite : rank < Binary64.infiniteRank)
    (hden : 0 < den) (h : RoundsTo rank num den) : num < 2 ^ 1024 * den := by
  obtain ⟨-, hhigh, -⟩ := roundsTo_iff.1 h
  have hnext : unitsOfRank (rank + 1) ≤ 2 ^ 2098 := by
    rw [← unitsOfRank_infinite]
    rcases Nat.lt_or_eq_of_le (Nat.succ_le_of_lt hfinite) with hlt | heq
    · exact Nat.le_of_lt (Binary64.unitsOfRank_lt hlt)
    · exact Nat.le_of_eq (congrArg unitsOfRank heq)
  have hsum : unitsOfRank rank + unitsOfRank (rank + 1) < 2 * 2 ^ 2098 := by
    have := unitsOfRank_lt_succ rank
    generalize 2 ^ 2098 = bound at *
    omega
  have hlt := Nat.lt_of_le_of_lt hhigh (Nat.mul_lt_mul_of_pos_right hsum hden)
  have hpow : 2 * 2 ^ 2098 * den = 2 ^ 1024 * den * 2 ^ 1075 := by
    rw [← Nat.pow_succ', Nat.mul_right_comm, ← Nat.pow_add]
  rw [hpow] at hlt
  exact Nat.lt_of_mul_lt_mul_right hlt

end Crosstab.Decimal

import Crosstab.Binary64

/-!
# Shortest decimals

A finite number has infinitely many decimals that round to it; the one to write is the shortest,
and among the shortest the nearest. The decimals that round to a number fill an interval between
the midpoints to its two neighbours, and the midpoints belong to it exactly if the rank is even,
because a tie goes to the even rank.

The search walks down the decimal grids 10ᵉ from coarse to fine. On each grid only the two grid
points next to the number can be nearest, so the first grid on which one of them lies in the
interval gives the answer. The grid 10⁻¹⁰⁷⁴ holds every finite number exactly, so the search ends.

    number ──shortest──▶ digits · 10 ^ exponent          (rounding it gives the number back)
-/

namespace Crosstab.Decimal

/-- The value `digits · 10 ^ exponent`. -/
structure Scientific where
  digits : Nat
  exponent : Int
deriving DecidableEq

/-- Which of two equally near grid points is taken. -/
inductive Tie where
  | up
  | even
deriving DecidableEq

/-- The interval of a number of some rank, with all lengths doubled so that the midpoints are
whole: the lower midpoint, the number and the upper midpoint in half units. -/
structure Interval where
  lower : Nat
  centre : Nat
  upper : Nat
  closed : Bool

/-- The decimals that round to the number of a positive rank. -/
def Interval.ofRank (rank : Nat) : Interval where
  lower := Binary64.unitsOfRank (rank - 1) + Binary64.unitsOfRank rank
  centre := 2 * Binary64.unitsOfRank rank
  upper := Binary64.unitsOfRank rank + Binary64.unitsOfRank (rank + 1)
  closed := rank % 2 == 0

/-- The step of the grid 10ᵉ as a quotient of half units. -/
def gridStep (e : Int) : Nat × Nat :=
  if 0 ≤ e then (10 ^ e.toNat * 2 ^ 1075, 1) else (2 ^ 1075, 10 ^ (-e).toNat)

/-- The grid point `digits` steps from zero lies in the interval. -/
def Interval.holds (interval : Interval) (step : Nat × Nat) (digits : Nat) : Bool :=
  let point := digits * step.1
  if interval.closed then
    decide (interval.lower * step.2 ≤ point) && decide (point ≤ interval.upper * step.2)
  else
    decide (interval.lower * step.2 < point) && decide (point < interval.upper * step.2)

/-- The nearest point of a grid that lies in the interval. -/
def Interval.nearestOn (interval : Interval) (tie : Tie) (e : Int) : Option Scientific :=
  let step := gridStep e
  let below := interval.centre * step.2 / step.1
  match interval.holds step below, interval.holds step (below + 1) with
  | false, false => none
  | true, false => some ⟨below, e⟩
  | false, true => some ⟨below + 1, e⟩
  | true, true =>
    let twice := 2 * (interval.centre * step.2)
    let middle := (2 * below + 1) * step.1
    if twice < middle then some ⟨below, e⟩
    else if middle < twice then some ⟨below + 1, e⟩
    else
      match tie with
      | .up => some ⟨below + 1, e⟩
      | .even => some ⟨if below % 2 = 0 then below else below + 1, e⟩

/-- An exponent of ten at which a magnitude of so many units has no digit: 30103 / 100000 is just
above the binary logarithm of ten's inverse. -/
def topExponent (units : Nat) : Int :=
  Int.fdiv (((units.log2 : Int) - 1072) * 30103) 100000 + 1

/-- The first grid from `top` downwards with a point in the interval. -/
def searchDown (interval : Interval) (tie : Tie) (top : Int) : Nat → Option Scientific
  | 0 => none
  | fuel + 1 =>
    match interval.nearestOn tie top with
    | some found => some found
    | none => searchDown interval tie (top - 1) fuel

/-- The shortest decimal that rounds to the number of a rank, and the nearest of these. -/
def shortest (tie : Tie) (rank : Nat) : Scientific :=
  if rank = 0 then ⟨0, 0⟩
  else
    let top := topExponent (Binary64.unitsOfRank rank)
    (searchDown (.ofRank rank) tie top (top + 1075).toNat).getD
      ⟨Binary64.unitsOfRank rank * 5 ^ 1074, -1074⟩

end Crosstab.Decimal

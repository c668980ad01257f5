import Crosstab.Decimal.Numeral
import Crosstab.Decimal.Shortest

/-!
# Scaled numbers

The engine goes between decimals and reals by scaling: it multiplies by powers of ten, a hundred,
ten or one at a time, and keeps 64 significant bits of each product. What it loses on the way is
so little that the nearest real comes out nearly always; a text of sixteen or more digits may be
read as a neighbour of the real that it spells.

    numeral ──read──▶ real                    real ──fifteen──▶ fifteen significant digits
-/

namespace Crosstab.Engine

open Decimal (Numeral Scientific)

/-- The value `significand · 2 ^ exponent`. -/
structure Scaled where
  significand : Nat
  exponent : Int
deriving DecidableEq

namespace Scaled

/-! ### Arithmetic -/

/-- The first 64 bits of a value; a half goes to the even neighbour. -/
def keep (n : Nat) (exponent : Int) : Scaled :=
  let excess : Nat := n.log2 - 63
  ⟨Binary64.roundHalfEven n (2 ^ excess), exponent + excess⟩

/-- The product. -/
def times (x y : Scaled) : Scaled := keep (x.significand * y.significand) (x.exponent + y.exponent)

/-- `10 ^ power`. -/
def tenTo (power : Nat) : Scaled := keep (10 ^ power) 0

/-- `1 / 10 ^ power`. -/
def tenthTo (power : Nat) : Scaled :=
  let den : Nat := 10 ^ power
  let shift : Nat := den.log2 + 65
  let excess : Nat := (2 ^ shift / den).log2 - 63
  ⟨Binary64.roundHalfEven (2 ^ shift) (den * 2 ^ excess), (excess : Int) - shift⟩

/-- A value as a quotient. -/
def ratio (x : Scaled) : Nat × Nat :=
  if 0 ≤ x.exponent then (x.significand * 2 ^ x.exponent.toNat, 1)
  else (x.significand, 2 ^ (-x.exponent).toNat)

/-- The first value is less than the second. -/
def less (x y : Scaled) : Bool := decide (x.ratio.1 * y.ratio.2 < y.ratio.1 * x.ratio.2)

/-- The real nearest to a value; a value above the greatest finite real is infinite. -/
def toBinary64 (negative : Bool) (x : Scaled) : Binary64 :=
  let greatest := Binary64.unitsOfRank (Binary64.infiniteRank - 1)
  if greatest * x.ratio.2 < x.ratio.1 * 2 ^ 1074 then .ofRank negative Binary64.infiniteRank
  else .ofRatio negative x.ratio.1 x.ratio.2

/-- Multiplies some times by the same factor. -/
def timesAgain (factor : Scaled) : Nat → Scaled → Scaled
  | 0, x => x
  | count + 1, x => timesAgain factor count (x.times factor)

/-- Multiplies by a power of ten, or of a tenth, in steps. -/
def scale (ten : Nat → Scaled) (power : Nat) (x : Scaled) : Scaled :=
  timesAgain (ten 1) (power % 10)
    (timesAgain (ten 10) (power % 100 / 10) (timesAgain (ten 100) (power / 100) x))

/-! ### Reading -/

/-- A significand below this bound takes another digit. -/
def digitBound : Nat := (2 ^ 64 - 10) / 10

/-- Takes as many digits as fit into a significand, and counts the others. -/
def takeDigits (significand : Nat) : List Char → Nat × Nat
  | [] => (significand, 0)
  | c :: cs =>
    if significand < digitBound then takeDigits (Decimal.readDigits significand [c]) cs
    else (significand, (c :: cs).length)

/-- Moves a power of ten into a significand, as far as that has room. -/
def grow : Nat → Nat → Nat × Nat
  | significand, 0 => (significand, 0)
  | significand, power + 1 =>
    if significand < (2 ^ 64 - 1) / 10 then grow (significand * 10) power
    else (significand, power + 1)

/-- Moves a power of a tenth into a significand, as far as that ends in zeros. -/
def shrink : Nat → Nat → Nat × Nat
  | significand, 0 => (significand, 0)
  | significand, power + 1 =>
    if significand % 10 = 0 then shrink (significand / 10) power else (significand, power + 1)

/-- The value of `significand · 10 ^ exponent`. -/
def ofDecimal (significand : Nat) (exponent : Int) : Scaled :=
  if 0 ≤ exponent then
    let (significand, power) := grow significand exponent.toNat
    scale tenTo power ⟨significand, 0⟩
  else
    let (significand, power) := shrink significand (-exponent).toNat
    scale tenthTo power ⟨significand, 0⟩

/-- The real that the engine reads a numeral as. Where the leading digit alone decides, the power
of ten is not looked at. -/
def read (numeral : Numeral) : Binary64 :=
  let digits := Nat.toDigits 10 numeral.coefficient
  let leading := numeral.exponent + digits.length
  if numeral.coefficient = 0 || decide (leading < -400) then .ofRank numeral.negative 0
  else if 400 < leading then .ofRank numeral.negative Binary64.infiniteRank
  else
    let (significand, dropped) := takeDigits 0 digits
    (ofDecimal significand (numeral.exponent + dropped)).toBinary64 numeral.negative

/-! ### Writing -/

/-- Multiplies by a factor, which stands for `10 ^ power`, for as long as a test holds, though not
more than `bound` times; counts the power that makes up for it. -/
def scaleWhile (test : Scaled → Bool) (factor : Scaled) (power : Int) :
    Nat → Scaled × Int → Scaled × Int
  | 0, x => x
  | bound + 1, (x, exponent) =>
    if test x then scaleWhile test factor power bound (x.times factor, exponent - power)
    else (x, exponent)

/-- A positive finite real as a value between 10¹⁷ and 10¹⁹ and a power of ten. -/
def spread (x : Binary64) : Scaled × Int :=
  let start := (keep (Binary64.unitsOfRank x.rank) (-1074), 0)
  let atLeast (y z : Scaled) : Bool := !z.less y
  if start.1.less (tenTo 19) then
    scaleWhile (less · (tenTo 17)) (tenTo 1) 1 12
      (scaleWhile (less · (tenTo 7)) (tenTo 10) 10 12
        (scaleWhile (less · (tenthTo 97)) (tenTo 100) 100 4 start))
  else
    scaleWhile (atLeast (tenTo 19)) (tenthTo 1) (-1) 12
      (scaleWhile (atLeast (tenTo 29)) (tenthTo 10) (-10) 12
        (scaleWhile (atLeast (tenTo 119)) (tenthTo 100) (-100) 4 start))

/-- The first fifteen digits of a positive finite real; the digit behind them rounds them, from
five on upwards. -/
def fifteen (x : Binary64) : Scientific :=
  let (scaled, exponent) := spread x
  let whole := scaled.ratio.1 / scaled.ratio.2
  let excess := (Nat.toDigits 10 whole).length - 15
  ⟨(whole / 10 ^ (excess - 1) + 5) / 10, exponent + excess⟩

end Scaled

end Crosstab.Engine

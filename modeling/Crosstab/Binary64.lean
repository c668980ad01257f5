/-!
# Binary64 numbers

The reals of the program: IEEE 754 numbers of 64 bits, held as their bits. Everything about them
is exact integer arithmetic, because every finite one is a whole number of *units* of 2⁻¹⁰⁷⁴:

    bits ──units──▶ the value in units          a quotient ──nearest──▶ bits

The magnitude bits, read as a number, are the *rank* of the value: ranks ascend exactly as values
do, the two zeros share rank 0, and the infinities come last. So order and equality are those of
ranks, with NaN standing apart, and rounding is a search for the nearest rank.
-/

namespace Crosstab

-- a power of a number is the one of the core library, whatever else is imported
attribute [instance (high), default_instance high + 1] instPowNat

/-- An IEEE 754 number of 64 bits. -/
structure Binary64 where
  /-- One sign bit, eleven exponent bits, fifty-two fraction bits. -/
  bits : UInt64
deriving DecidableEq

namespace Binary64

/-! ### The fields -/

/-- The rank of the infinities, the first that no finite number has. -/
def infiniteRank : Nat := 2047 * 2 ^ 52

/-- The sign bit is set. -/
def isNegative (x : Binary64) : Bool := decide (2 ^ 63 ≤ x.bits.toNat)

/-- The bits below the sign bit, as a number. -/
def rank (x : Binary64) : Nat := x.bits.toNat % 2 ^ 63

/-- Neither an infinity nor NaN. -/
def isFinite (x : Binary64) : Bool := decide (x.rank < infiniteRank)

/-- Not a number. -/
def isNaN (x : Binary64) : Bool := decide (infiniteRank < x.rank)

/-- The number of a rank, with a sign. -/
def ofRank (negative : Bool) (rank : Nat) : Binary64 :=
  ⟨UInt64.ofNat (rank % 2 ^ 63 + if negative then 2 ^ 63 else 0)⟩

/-! ### Values -/

/-- The magnitude of a rank, in units of 2⁻¹⁰⁷⁴. Ranks below 2⁵² step by one unit; each further
block of 2⁵² ranks steps twice as wide as the one before it. -/
def unitsOfRank (rank : Nat) : Nat :=
  if rank < 2 ^ 52 then rank
  else (2 ^ 52 + rank % 2 ^ 52) * 2 ^ (rank / 2 ^ 52 - 1)

/-- The value in units of 2⁻¹⁰⁷⁴; infinities take the value the next rank would have. -/
def units (x : Binary64) : Int :=
  if x.isNegative then -(unitsOfRank x.rank : Int) else (unitsOfRank x.rank : Int)

/-- The number taken from zero, so that no zero is negative. -/
def negated (x : Binary64) : Binary64 := ofRank (x.rank != 0 && !x.isNegative) x.rank

/-! ### Order and equality

As IEEE numbers: the zeros are equal, and NaN is neither equal to nor ordered with anything. -/

/-- The rank with the sign of the number, so that both zeros are 0. -/
def signedRank (x : Binary64) : Int := if x.isNegative then -(x.rank : Int) else (x.rank : Int)

/-- Equality as IEEE numbers. -/
def same (x y : Binary64) : Bool :=
  !x.isNaN && !y.isNaN && decide (x.signedRank = y.signedRank)

/-! ### Rounding -/

/-- The quotient rounded to the nearest whole number; halfway goes to the even neighbour. -/
def roundHalfEven (num den : Nat) : Nat :=
  let low := num / den
  let rest := num % den
  if 2 * rest < den then low
  else if 2 * rest = den ∧ low % 2 = 0 then low
  else low + 1

/-- The rank nearest to a quotient. Above 2⁵³ units the step between ranks doubles with every
binary digit; a quotient past the last finite rank is infinite. -/
def nearestRank (num den : Nat) : Nat :=
  let widening := (num * 2 ^ 1074 / den).log2 - 52
  let steps := roundHalfEven (num * 2 ^ 1074) (den * 2 ^ widening)
  min (widening * 2 ^ 52 + steps) infiniteRank

/-- The number nearest to a quotient, ties to the even rank. -/
def ofRatio (negative : Bool) (num den : Nat) : Binary64 := ofRank negative (nearestRank num den)

/-- The number nearest to a whole number. -/
def ofInt (n : Int) : Binary64 := ofRatio (decide (n < 0)) n.natAbs 1

/-- The whole number a finite number is equal to. -/
def toInt? (x : Binary64) : Option Int :=
  if x.isFinite && x.units % 2 ^ 1074 == 0 then some (x.units / 2 ^ 1074) else none

end Binary64

end Crosstab

import Crosstab.Decimal.Shortest

/-!
# Layouts of decimals

How a number is written once its digits are chosen. A layout fixes where positional notation
ends, how exponents are written and what stands for the numbers that have no digits. Positional
text always has a point, so a written real is never mistaken for an integer; exponent text has
one only if it has more than one digit.

    number ──Layout.write──▶ "0.5"   "-2.0"   "1e16"   "1.5e-7"
-/

namespace Crosstab.Decimal

/-- The choices of one written form. -/
structure Layout where
  /-- The least exponent of the leading digit that is written positionally. -/
  leastPositional : Int
  /-- The greatest exponent of the leading digit that is written positionally. -/
  greatestPositional : Int
  /-- What stands before a positive exponent, after the `e`. -/
  exponentSign : String
  /-- Which of two equally near shortest decimals is written. -/
  tie : Tie
  notANumber : String
  infinity : String
  negativeInfinity : String

/-- The digits of a number, as text. -/
def digitChars (n : Nat) : List Char := Nat.toDigits 10 n

/-- The text of a magnitude in positional notation. -/
def positional (digits : List Char) (exponent : Int) : List Char :=
  if 0 ≤ exponent then digits ++ List.replicate exponent.toNat '0' ++ ['.', '0']
  else
    let places := (-exponent).toNat
    if places < digits.length then
      digits.take (digits.length - places) ++ '.' :: digits.drop (digits.length - places)
    else '0' :: '.' :: List.replicate (places - digits.length) '0' ++ digits

/-- The text of a magnitude in exponent notation. -/
def exponential (sign : String) (digits : List Char) (leading : Int) : List Char :=
  let mantissa :=
    match digits with
    | [] => []
    | [d] => [d]
    | d :: ds => d :: '.' :: ds
  let shown := if 0 ≤ leading then sign.toList ++ digitChars leading.toNat
    else '-' :: digitChars (-leading).toNat
  mantissa ++ 'e' :: shown

/-- The text of a finite magnitude. -/
def Layout.writeMagnitude (layout : Layout) (rank : Nat) : List Char :=
  let decimal := shortest layout.tie rank
  let digits := digitChars decimal.digits
  let leading := decimal.exponent + digits.length - 1
  if rank = 0 then ['0', '.', '0']
  else if layout.leastPositional ≤ leading ∧ leading ≤ layout.greatestPositional then
    positional digits decimal.exponent
  else exponential layout.exponentSign digits leading

/-- The text of a number. -/
def Layout.write (layout : Layout) (x : Binary64) : String :=
  if x.isNaN then layout.notANumber
  else if x.isFinite then
    String.ofList ((if x.isNegative then ['-'] else []) ++ layout.writeMagnitude x.rank)
  else if x.isNegative then layout.negativeInfinity
  else layout.infinity

end Crosstab.Decimal

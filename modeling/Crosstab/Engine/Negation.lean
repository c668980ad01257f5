import Crosstab.Engine.Affinity

/-!
# Negation

A minus takes every cell for a number. Text and blobs count as the number that they begin with, if
only with zero; NULL stays NULL.
-/

namespace Crosstab.Engine

open Decimal (Numeral isDigit readDigits)

/-- The numeral that a text begins with, behind blanks; zero if there is none. -/
def leadingNumeral (cs : List Char) : Numeral :=
  let (negative, rest) := Numeral.takeSign (cs.dropWhile Text.isAsciiBlank)
  let whole := rest.takeWhile isDigit
  let integral : Numeral := ⟨negative, readDigits 0 whole, 0, true⟩
  let (numeral, digits, rest) :=
    match rest.dropWhile isDigit with
    | '.' :: behind =>
      let fraction := behind.takeWhile isDigit
      (integral.withFraction fraction, whole ++ fraction, behind.dropWhile isDigit)
    | rest => (integral, whole, rest)
  if digits.isEmpty then ⟨false, 0, 0, true⟩
  else
    match numeral.scanExponent rest with
    | some (numeral, _) => numeral
    | none => numeral

/-- The bytes as characters, each by itself; in a numeral all of them are ASCII. -/
def asciiChars (bytes : ByteArray) : List Char :=
  bytes.data.toList.map fun byte => Char.ofNat byte.toNat

/-- The number that a cell counts as; NULL if there is none. -/
def Cell.number : Cell → Cell
  | .text bytes => .ofNumeral (leadingNumeral (asciiChars bytes))
  | .blob bytes => .ofNumeral (leadingNumeral (asciiChars bytes))
  | cell => cell

/-- A cell behind a minus. The least integer has no negation among the integers and becomes a
real. -/
def Cell.negated (cell : Cell) : Cell :=
  match cell.number with
  | .integer n =>
    if n.toInt = -2 ^ 63 then .real (.ofInt (2 ^ 63)) else .integer (Int64.ofInt (-n.toInt))
  | .real x => .real x.negated
  | other => other

end Crosstab.Engine

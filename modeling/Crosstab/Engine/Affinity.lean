import Crosstab.Decimal.Layout
import Crosstab.Decimal.Numeral
import Crosstab.Engine.Cell
import Crosstab.Engine.Scaled

/-!
# Column affinity

The declared type of a column converts what is stored in it, where that loses nothing. A TEXT
column turns numbers into text. An INTEGER column turns text that spells a number into a number
and a real that is a whole number into an integer, and so does a NUMERIC one; a REAL column does
the same and then turns integers into reals. A column without a type takes everything as it is.

`=` converts as well: against a column of numbers, text that spells a number is that number, and
against a column of text, a number is its text.
-/

namespace Crosstab.Engine

open Decimal (Numeral)

/-- What a column does to the cells stored in it. -/
inductive Affinity where
  | none
  | text
  | integer
  | real
  | numeric
deriving DecidableEq, Repr

/-! ### Numbers as text -/

/-- Digits without the zeros at their end, though at least one digit is kept. -/
def dropZeros (digits : List Char) : List Char :=
  match (digits.reverse.dropWhile (· == '0')).reverse with
  | [] => ['0']
  | kept => kept

/-- The text of a real in a TEXT column: fifteen significant digits without zeros at the end, but
always a digit behind the point; an exponent has two digits at least. -/
def realText (x : Binary64) : String :=
  let sign := if x.isNegative then ['-'] else []
  if !x.isFinite then String.ofList (sign ++ ['I', 'n', 'f'])
  else if x.rank = 0 then "0.0"
  else
    let rounded := Scaled.fifteen x
    let digits := Decimal.digitChars rounded.digits
    let leading := rounded.exponent + digits.length - 1
    let kept := dropZeros digits
    let body :=
      if -5 < leading ∧ leading < 15 then
        Decimal.positional kept (leading + 1 - kept.length)
      else
        let mantissa :=
          match kept with
          | [] => []
          | [d] => [d, '.', '0']
          | d :: ds => d :: '.' :: ds
        let power := Decimal.digitChars leading.natAbs
        mantissa ++ 'e' :: (if leading < 0 then '-' else '+') ::
          (if power.length < 2 then '0' :: power else power)
    String.ofList (sign ++ body)

/-! ### Text as numbers -/

/-- The numeral that a text spells, with blanks around it. -/
def spelledNumeral? (text : List Char) : Option Numeral :=
  let inner := (text.dropWhile Text.isAsciiBlank).reverse.dropWhile Text.isAsciiBlank |>.reverse
  match inner with
  | '-' :: rest => Numeral.unsigned? true rest
  | '+' :: rest => Numeral.unsigned? false rest
  | _ => Numeral.unsigned? false inner

/-! ### Conversion -/

/-- The integer that a numeral denotes, if it is written as one and fits into 64 bits. -/
def integerOf? (n : Numeral) : Option Int64 :=
  if n.integral && decide (-2 ^ 63 ≤ n.toInt) && decide (n.toInt < 2 ^ 63) then
    some (Int64.ofInt n.toInt)
  else Option.none

/-- The cell that a numeral denotes: an integer if it is written as one that fits, and the real
that the engine reads it as otherwise. -/
def Cell.ofNumeral (n : Numeral) : Cell :=
  match integerOf? n with
  | some value => .integer value
  | Option.none => .ofReal (Scaled.read n)

/-- An integer strictly between the ends of 64 bits that a real is equal to. -/
def wholeOf? (x : Binary64) : Option Int64 :=
  match x.toInt? with
  | some n => if -2 ^ 63 < n ∧ n < 2 ^ 63 - 1 then some (Int64.ofInt n) else Option.none
  | Option.none => Option.none

/-- A number as an integer where it is one. -/
def integral : Cell → Cell
  | .real x =>
    match wholeOf? x with
    | some n => .integer n
    | Option.none => .real x
  | cell => cell

/-- Text that spells a number as that number. -/
def asNumber : Cell → Cell
  | .text bytes =>
    match (String.fromUTF8? bytes).bind fun s => spelledNumeral? s.toList with
    | some n => .ofNumeral n
    | Option.none => .text bytes
  | cell => cell

/-- A number as text. -/
def textual : Cell → Cell
  | .integer n => .ofText (toString n.toInt)
  | .real x => .ofText (realText x)
  | cell => cell

/-- What an INTEGER or NUMERIC column stores. -/
def toInteger (cell : Cell) : Cell :=
  match cell with
  | .text _ => integral (asNumber cell)
  | _ => integral cell

namespace Affinity

/-- What a column stores for a cell. -/
def convert : Affinity → Cell → Cell
  | .none, cell => cell
  | .text, cell => textual cell
  | .integer, cell | .numeric, cell => toInteger cell
  | .real, cell =>
    match toInteger cell with
    | .integer n => .real (.ofInt n.toInt)
    | other => other

/-! ### Comparison -/

/-- A column of numbers. -/
def isNumeric (affinity : Affinity) : Bool := [.integer, .real, .numeric].contains affinity

/-- The affinity with which `=` compares its sides, each of which has one if it is a column. Two
columns are compared as numbers if one of them is a column of numbers, and as they are otherwise. -/
def ofSides : Option Affinity → Option Affinity → Affinity
  | some left, some right =>
    if left.isNumeric then left else if right.isNumeric then right else .none
  | some affinity, Option.none => affinity
  | Option.none, some affinity => affinity
  | Option.none, Option.none => .none

/-- A cell as it is compared, beside another one. -/
def adapt (affinity : Affinity) (cell other : Cell) : Cell :=
  match affinity with
  | .none => cell
  | .text => if cell.isText || other.isText then textual cell else cell
  | .integer | .real | .numeric => asNumber cell

/-- SQL's `=` with an affinity. -/
def equates (affinity : Affinity) (left right : Cell) : Bool :=
  (affinity.adapt left right).equals (affinity.adapt right left)

end Affinity

end Crosstab.Engine

import Crosstab.Binary64
import Crosstab.Text.Blank

/-!
# Numerals

A numeral as it is written: an optional minus, digits, an optional fraction and an optional
exponent. What it says is a decimal, kept exactly; whether it was written with digits alone
decides if it denotes an integer or a real.

    "12.50e3" ──scanFraction behind the 12──▶ coefficient 1250, exponent 1, not integral
-/

namespace Crosstab.Decimal

/-- What a numeral says: `± coefficient · 10 ^ exponent`. -/
structure Numeral where
  negative : Bool
  coefficient : Nat
  exponent : Int
  /-- Written without fraction and exponent. -/
  integral : Bool
deriving DecidableEq, Repr

/-- A decimal digit. -/
def isDigit (c : Char) : Bool := decide ('0' ≤ c) && decide (c ≤ '9')

/-- The number that a list of digits spells, read behind digits that spell `start`. -/
def readDigits (start : Nat) (digits : List Char) : Nat :=
  digits.foldl (fun n c => n * 10 + (c.toNat - '0'.toNat)) start

namespace Numeral

/-- The number nearest to `± coefficient · 10 ^ exponent`. A numeral so large or so small that its
leading digit alone decides is answered without its power of ten. -/
def toBinary64 (numeral : Numeral) : Binary64 :=
  let leading := numeral.exponent + (Nat.toDigits 10 numeral.coefficient).length
  if numeral.coefficient = 0 || decide (leading < -400) then .ofRank numeral.negative 0
  else if 400 < leading then .ofRank numeral.negative Binary64.infiniteRank
  else if 0 ≤ numeral.exponent then
    .ofRatio numeral.negative (numeral.coefficient * 10 ^ numeral.exponent.toNat) 1
  else .ofRatio numeral.negative numeral.coefficient (10 ^ (-numeral.exponent).toNat)

/-- The whole number a numeral of digits alone denotes. -/
def toInt (numeral : Numeral) : Int :=
  if numeral.negative then -(numeral.coefficient : Int) else (numeral.coefficient : Int)

/-- Adds the fraction behind a point. -/
def withFraction (numeral : Numeral) (digits : List Char) : Numeral :=
  { numeral with
    coefficient := readDigits numeral.coefficient digits
    exponent := numeral.exponent - digits.length
    integral := false }

/-- Adds a power of ten. -/
def withExponent (numeral : Numeral) (negative : Bool) (digits : List Char) : Numeral :=
  let power : Int := readDigits 0 digits
  { numeral with
    exponent := numeral.exponent + if negative then -power else power
    integral := false }

/-- The sign of an exponent, if one is written, and what follows it. -/
def takeSign : List Char → Bool × List Char
  | '-' :: rest => (true, rest)
  | '+' :: rest => (false, rest)
  | cs => (false, cs)

/-- Reads the exponent part that may follow; `e` without digits behind it is an error. -/
def scanExponent (numeral : Numeral) : List Char → Option (Numeral × List Char)
  | [] => some (numeral, [])
  | c :: cs =>
    if c = 'e' ∨ c = 'E' then
      let digits := (takeSign cs).2.takeWhile isDigit
      if digits.isEmpty then none
      else some (numeral.withExponent (takeSign cs).1 digits, (takeSign cs).2.dropWhile isDigit)
    else some (numeral, c :: cs)

/-- Reads the fraction and the exponent that may follow the whole part; a point without digits
behind it is an error. -/
def scanFraction (numeral : Numeral) : List Char → Option (Numeral × List Char)
  | '.' :: cs =>
    let digits := cs.takeWhile isDigit
    if digits.isEmpty then none
    else scanExponent (numeral.withFraction digits) (cs.dropWhile isDigit)
  | cs => scanExponent numeral cs

/-- The integer that a text spells with digits alone, perhaps behind a minus. -/
def integer? (cs : List Char) : Option Int :=
  let (negative, digits) := match cs with
    | '-' :: rest => (true, rest)
    | _ => (false, cs)
  if digits.isEmpty || !digits.all isDigit then none
  else some (toInt ⟨negative, readDigits 0 digits, 0, true⟩)

/-- The numeral that a text spells behind its sign: digits with a point somewhere among or around
them, and perhaps an exponent. -/
def unsigned? (negative : Bool) (cs : List Char) : Option Numeral :=
  let whole := cs.takeWhile isDigit
  let rest := cs.dropWhile isDigit
  let (numeral, digits, rest) :=
    match rest with
    | '.' :: behind =>
      let fraction := behind.takeWhile isDigit
      ((⟨negative, readDigits 0 whole, 0, true⟩ : Numeral).withFraction fraction,
        whole ++ fraction, behind.dropWhile isDigit)
    | _ => (⟨negative, readDigits 0 whole, 0, true⟩, whole, rest)
  if digits.isEmpty then none
  else
    match numeral.scanExponent rest with
    | some (numeral, []) => some numeral
    | _ => none

/-! ### Progress -/

theorem length_takeSign_le (cs : List Char) : (takeSign cs).2.length ≤ cs.length := by
  unfold takeSign
  split <;> simp

theorem length_scanExponent_le {numeral : Numeral} {cs : List Char} {r : Numeral × List Char}
    (h : numeral.scanExponent cs = some r) : r.2.length ≤ cs.length := by
  unfold scanExponent at h
  split at h
  · cases h; exact Nat.le_refl _
  · next c cs =>
    simp only at h
    split at h
    · split at h
      · contradiction
      · cases h
        have hsign := length_takeSign_le cs
        have hdigits := Text.length_dropWhile_le isDigit (takeSign cs).2
        simp only [List.length_cons]
        omega
    · cases h; exact Nat.le_refl _

theorem length_scanFraction_le {numeral : Numeral} {cs : List Char} {r : Numeral × List Char}
    (h : numeral.scanFraction cs = some r) : r.2.length ≤ cs.length := by
  unfold scanFraction at h
  split at h
  · next cs =>
    simp only at h
    split at h
    · contradiction
    · have hbehind := length_scanExponent_le h
      have := Text.length_dropWhile_le isDigit cs
      simp only [List.length_cons]
      omega
  · exact length_scanExponent_le h

end Numeral

end Crosstab.Decimal

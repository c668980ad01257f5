/-!
# Hexadecimal text

Bytes and words as digits in base sixteen. Writing uses lower case, two digits for a byte and
sixteen for a word of 64 bits; reading takes either case.

    bytes ──ofBytes──▶ digits ──bytes?──▶ bytes
-/

namespace Crosstab.Text.Hexadecimal

/-- The value of a digit. -/
def digit? (c : Char) : Option Nat :=
  if '0' ≤ c ∧ c ≤ '9' then some (c.toNat - '0'.toNat)
  else if 'a' ≤ c ∧ c ≤ 'f' then some (c.toNat - 'a'.toNat + 10)
  else if 'A' ≤ c ∧ c ≤ 'F' then some (c.toNat - 'A'.toNat + 10)
  else none

/-- The number that digits spell behind a number already read. -/
def number? (read : Nat) : List Char → Option Nat
  | [] => some read
  | c :: cs => do number? (read * 16 + (← digit? c)) cs

/-- The last `count` digits of a number. -/
def digits : Nat → Nat → List Char
  | 0, _ => []
  | count + 1, n => digits count (n / 16) ++ [Nat.digitChar (n % 16)]

/-- The bytes that pairs of digits spell. -/
def bytes? : List Char → Option (List UInt8)
  | [] => some []
  | [_] => none
  | high :: low :: rest => do
    return UInt8.ofNat ((← digit? high) * 16 + (← digit? low)) :: (← bytes? rest)

/-- Bytes as pairs of digits. -/
def ofBytes (bytes : List UInt8) : List Char := bytes.flatMap fun byte => digits 2 byte.toNat

/-- The word that sixteen digits spell. -/
def word? (cs : List Char) : Option UInt64 :=
  if cs.length = 16 then (number? 0 cs).map UInt64.ofNat else none

/-- A word as sixteen digits. -/
def ofWord (word : UInt64) : List Char := digits 16 word.toNat

end Crosstab.Text.Hexadecimal

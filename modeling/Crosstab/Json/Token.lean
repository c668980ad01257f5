import Crosstab.Decimal.Numeral
import Crosstab.Text.Blank
import Crosstab.Text.Hexadecimal

/-!
# JSON tokens

The pieces that JSON text is made of: brackets, commas and colons, the three literal words,
numerals and strings. Blanks separate them and mean nothing.

A string is kept as the code units that it spells, because an escape may name one half of a
surrogate pair, and half a pair is no character: such a string is well formed, but no text.

    text ──Token.scan──▶ tokens
-/

namespace Crosstab.Json

open Decimal (Numeral isDigit readDigits)

/-- A piece of JSON text. -/
inductive Token where
  | openArray
  | closeArray
  | openObject
  | closeObject
  | comma
  | colon
  | null
  | bool (b : Bool)
  | numeral (n : Numeral)
  /-- A string, if what it spells is a text. -/
  | string (text : Option String)
deriving DecidableEq

/-! ### Strings -/

/-- What one character or escape of a string spells. -/
inductive CodeUnit where
  | char (c : Char)
  /-- A unit of 16 bits, by its number. -/
  | code (n : Nat)
deriving DecidableEq

/-- The character that a one-letter escape stands for. -/
def shortEscape? : Char → Option Char
  | '"' => some '"'
  | '\\' => some '\\'
  | '/' => some '/'
  | 'b' => some '\x08'
  | 'f' => some '\x0c'
  | 'n' => some '\x0a'
  | 'r' => some '\x0d'
  | 't' => some '\x09'
  | _ => none

/-- Reads a string whose opening quote has been read: its code units, and what follows the
closing quote. Control characters cannot stand in a string. -/
def scanString : List Char → Option (List CodeUnit × List Char)
  | [] => none
  | '"' :: rest => some ([], rest)
  | '\\' :: 'u' :: a :: b :: c :: d :: rest => do
    let code ← Text.Hexadecimal.number? 0 [a, b, c, d]
    let (units, rest) ← scanString rest
    return (.code code :: units, rest)
  | '\\' :: c :: rest => do
    let char ← shortEscape? c
    let (units, rest) ← scanString rest
    return (.char char :: units, rest)
  | c :: rest =>
    if c.toNat < 32 ∨ c = '\\' then none
    else do
      let (units, rest) ← scanString rest
      return (.char c :: units, rest)

/-- The first half of a surrogate pair. -/
def isLeading (n : Nat) : Bool := decide (0xD800 ≤ n) && decide (n ≤ 0xDBFF)

/-- The second half of a surrogate pair. -/
def isTrailing (n : Nat) : Bool := decide (0xDC00 ≤ n) && decide (n ≤ 0xDFFF)

/-- The text that code units spell: the halves of a pair have to meet. -/
def decodeUnits : List CodeUnit → Option (List Char)
  | [] => some []
  | .char c :: rest => (decodeUnits rest).map (c :: ·)
  | [.code n] => if isLeading n || isTrailing n then none else some [Char.ofNat n]
  | .code n :: .code m :: rest =>
    if isLeading n then
      if isTrailing m then
        (decodeUnits rest).map (Char.ofNat ((n - 0xD800) * 0x400 + (m - 0xDC00) + 0x10000) :: ·)
      else none
    else if isTrailing n then none
    else (decodeUnits (.code m :: rest)).map (Char.ofNat n :: ·)
  | .code n :: .char c :: rest =>
    if isLeading n || isTrailing n then none
    else (decodeUnits (.char c :: rest)).map (Char.ofNat n :: ·)

/-! ### Numerals -/

/-- Reads a numeral behind its sign; a leading zero stands alone. -/
def scanMagnitude (negative : Bool) : List Char → Option (Numeral × List Char)
  | [] => none
  | c :: cs =>
    if c = '0' then Numeral.scanFraction ⟨negative, 0, 0, true⟩ cs
    else if isDigit c then
      Numeral.scanFraction ⟨negative, readDigits 0 (c :: cs.takeWhile isDigit), 0, true⟩
        (cs.dropWhile isDigit)
    else none

/-- Reads a numeral; a minus may stand first. -/
def scanNumeral : List Char → Option (Numeral × List Char)
  | '-' :: rest => scanMagnitude true rest
  | cs => scanMagnitude false cs

/-! ### Tokens -/

/-- A character that separates tokens. -/
def isSeparator (c : Char) : Bool := c == ' ' || c == '\t' || c == '\n' || c == '\r'

/-- Reads the token at the start of a text. -/
def Token.scanOne : List Char → Option (Token × List Char)
  | [] => none
  | '[' :: rest => some (.openArray, rest)
  | ']' :: rest => some (.closeArray, rest)
  | '{' :: rest => some (.openObject, rest)
  | '}' :: rest => some (.closeObject, rest)
  | ',' :: rest => some (.comma, rest)
  | ':' :: rest => some (.colon, rest)
  | 'n' :: 'u' :: 'l' :: 'l' :: rest => some (.null, rest)
  | 't' :: 'r' :: 'u' :: 'e' :: rest => some (.bool true, rest)
  | 'f' :: 'a' :: 'l' :: 's' :: 'e' :: rest => some (.bool false, rest)
  | '"' :: rest =>
    (scanString rest).map fun r => (.string ((decodeUnits r.1).map String.ofList), r.2)
  | cs => (scanNumeral cs).map fun r => (.numeral r.1, r.2)

/-! ### Progress -/

theorem length_scanString_lt {cs : List Char} {r : List CodeUnit × List Char}
    (h : scanString cs = some r) : r.2.length < cs.length := by
  fun_induction scanString cs generalizing r with
  | case1 => cases h
  | case2 => cases h; simp
  | case3 a b c d rest ih =>
    simp only [Option.bind_eq_bind, Option.pure_def, Option.bind_eq_some_iff] at h
    obtain ⟨_, _, u, hu, h⟩ := h
    cases h
    have := ih hu
    simp only [List.length_cons]
    omega
  | case4 c rest _ ih =>
    simp only [Option.bind_eq_bind, Option.pure_def, Option.bind_eq_some_iff] at h
    obtain ⟨_, _, u, hu, h⟩ := h
    cases h
    have := ih hu
    simp only [List.length_cons]
    omega
  | case5 => cases h
  | case6 c rest _ _ _ _ ih =>
    simp only [Option.bind_eq_bind, Option.pure_def, Option.bind_eq_some_iff] at h
    obtain ⟨u, hu, h⟩ := h
    cases h
    have := ih hu
    simp only [List.length_cons]
    omega

theorem length_scanMagnitude_lt {negative : Bool} {cs : List Char} {r : Numeral × List Char}
    (h : scanMagnitude negative cs = some r) : r.2.length < cs.length := by
  unfold scanMagnitude at h
  split at h
  · contradiction
  · next c cs =>
    simp only [List.length_cons]
    split at h
    · have := Numeral.length_scanFraction_le h
      omega
    · split at h
      · have := Numeral.length_scanFraction_le h
        have := Text.length_dropWhile_le isDigit cs
        omega
      · contradiction

theorem length_scanNumeral_lt {cs : List Char} {r : Numeral × List Char}
    (h : scanNumeral cs = some r) : r.2.length < cs.length := by
  unfold scanNumeral at h
  split at h
  · have := length_scanMagnitude_lt h
    simp only [List.length_cons]
    omega
  · exact length_scanMagnitude_lt h

theorem Token.length_scanOne_lt {cs : List Char} {r : Token × List Char}
    (h : Token.scanOne cs = some r) : r.2.length < cs.length := by
  unfold Token.scanOne at h
  split at h
  case h_1 => contradiction
  case h_11 =>
    obtain ⟨u, hu, rfl⟩ := Option.map_eq_some_iff.1 h
    have := length_scanString_lt hu
    simp only [List.length_cons]
    omega
  case h_12 =>
    obtain ⟨u, hu, rfl⟩ := Option.map_eq_some_iff.1 h
    exact length_scanNumeral_lt hu
  all_goals
    cases h
    simp only [List.length_cons]
    omega

/-- The tokens of a text. -/
def Token.scan (cs : List Char) : Option (List Token) :=
  match _h : cs.dropWhile isSeparator with
  | [] => some []
  | c :: rest =>
    match _htoken : Token.scanOne (c :: rest) with
    | none => none
    | some (token, behind) => (Token.scan behind).map (token :: ·)
termination_by cs.length
decreasing_by
  have htoken : behind.length < (c :: rest).length := Token.length_scanOne_lt _htoken
  have hskip := Text.length_dropWhile_le isSeparator cs
  rw [_h] at hskip
  omega

end Crosstab.Json

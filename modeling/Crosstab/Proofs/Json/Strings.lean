import Crosstab.Json.Printer
import Crosstab.Json.Token

/-!
# The strings of JSON

Between its quotes a string has characters that stand for themselves and escapes, by a letter or by
four hexadecimal digits. Each spells one code unit, and scanning finds the units up to the closing
quote. What is written of a text is such a string, and its units spell the text.

    text ──quoteString──▶ characters ──WritesString──▶ text
-/

namespace Crosstab.Json

/-! ### What writes a string -/

/-- Characters between quotes write code units. -/
inductive WritesUnits : List Char → List CodeUnit → Prop
  | nil : WritesUnits [] []
  | plain {c cs units} (hcontrol : 32 ≤ c.toNat) (hquote : c ≠ '"') (hslash : c ≠ '\\')
    (h : WritesUnits cs units) : WritesUnits (c :: cs) (.char c :: units)
  | short {letter c cs units} (hletter : shortEscape? letter = some c) (h : WritesUnits cs units) :
    WritesUnits ('\\' :: letter :: cs) (.char c :: units)
  | code {a b c d n cs units} (hcode : Text.Hexadecimal.number? 0 [a, b, c, d] = some n)
    (h : WritesUnits cs units) :
    WritesUnits ('\\' :: 'u' :: a :: b :: c :: d :: cs) (.code n :: units)

/-- Characters write a string in quotes, and its text if it is one. -/
inductive WritesString : List Char → Option String → Prop
  | intro {cs units} (h : WritesUnits cs units) :
    WritesString ('"' :: (cs ++ ['"'])) ((decodeUnits units).map String.ofList)

/-! ### Scanning -/

theorem scanString_plain {c : Char} (hquote : c ≠ '"') (hslash : c ≠ '\\') (h : 32 ≤ c.toNat)
    (cs : List Char) :
    scanString (c :: cs) = (scanString cs).map fun r => (.char c :: r.1, r.2) := by
  rw [scanString.eq_def]
  split
  · next heq => cases heq
  · next heq => exact absurd (List.cons.inj heq).1 hquote
  · next heq => exact absurd (List.cons.inj heq).1 hslash
  · next heq => exact absurd (List.cons.inj heq).1 hslash
  · next heq =>
    obtain ⟨rfl, rfl⟩ := List.cons.inj heq
    rw [if_neg (by simp [hslash]; omega)]
    cases scanString cs <;> rfl

theorem scanString_short {letter c : Char} (h : shortEscape? letter = some c) (cs : List Char) :
    scanString ('\\' :: letter :: cs) =
      (scanString cs).map fun r => (.char c :: r.1, r.2) := by
  have hletter : letter ≠ 'u' := by
    rintro rfl
    cases h
  rw [scanString.eq_def]
  split
  · next heq => cases heq
  · next heq => exact absurd (List.cons.inj heq).1 (by decide)
  · next heq => exact absurd (List.cons.inj (List.cons.inj heq).2).1 hletter
  · next heq =>
    obtain ⟨-, hrest⟩ := List.cons.inj heq
    obtain ⟨rfl, rfl⟩ := List.cons.inj hrest
    rw [h]
    cases scanString cs <;> rfl
  · next _ _ hother heq =>
    obtain ⟨rfl, rfl⟩ := List.cons.inj heq
    exact (hother letter cs rfl rfl).elim

theorem scanString_code {a b c d : Char} {n : Nat}
    (h : Text.Hexadecimal.number? 0 [a, b, c, d] = some n) (cs : List Char) :
    scanString ('\\' :: 'u' :: a :: b :: c :: d :: cs) =
      (scanString cs).map fun r => (.code n :: r.1, r.2) := by
  rw [scanString, h]
  cases scanString cs <;> rfl

/-- The units of a string are scanned up to the closing quote. -/
theorem WritesUnits.scanString_eq {cs : List Char} {units : List CodeUnit}
    (h : WritesUnits cs units) (rest : List Char) :
    scanString (cs ++ '"' :: rest) = some (units, rest) := by
  induction h with
  | nil => rw [List.nil_append, scanString]
  | plain hcontrol hquote hslash _ ih =>
    rw [List.cons_append, scanString_plain hquote hslash hcontrol, ih, Option.map_some]
  | short hletter _ ih =>
    rw [List.cons_append, List.cons_append, scanString_short hletter, ih, Option.map_some]
  | code hcode _ ih =>
    simp only [List.cons_append]
    rw [scanString_code hcode, ih, Option.map_some]

/-! ### Written texts -/

/-- What the written form of a character spells: control characters without a letter of their own
are written by number. -/
def unitOf (c : Char) : CodeUnit :=
  if c.toNat < 32 ∧ c ∉ ['\x08', '\x09', '\x0a', '\x0c', '\x0d'] then .code c.toNat else .char c

theorem number?_control {n : Nat} (h : n < 32) :
    Text.Hexadecimal.number? 0 ['0', '0', Nat.digitChar (n / 16), Nat.digitChar (n % 16)] =
      some n := by
  revert n
  decide

theorem WritesUnits.escaped {cs : List Char} {units : List CodeUnit} (h : WritesUnits cs units)
    (c : Char) : WritesUnits (escapeChar c ++ cs) (unitOf c :: units) := by
  by_cases hshort : c ∈ ['"', '\\', '\x08', '\x09', '\x0a', '\x0c', '\x0d']
  · simp only [List.mem_cons, List.not_mem_nil, or_false] at hshort
    rcases hshort with rfl | rfl | rfl | rfl | rfl | rfl | rfl <;> exact .short rfl h
  simp only [List.mem_cons, List.not_mem_nil, or_false, not_or] at hshort
  obtain ⟨hquote, hslash, h₁, h₂, h₃, h₄, h₅⟩ := hshort
  by_cases hcontrol : c.toNat < 32
  · have hescape : escapeChar c = ['\\', 'u', '0', '0', Nat.digitChar (c.toNat / 16),
        Nat.digitChar (c.toNat % 16)] := by
      simp [escapeChar, hquote, hslash, h₁, h₂, h₃, h₄, h₅, hcontrol]
    have hunit : unitOf c = .code c.toNat := by
      simp [unitOf, hcontrol, h₁, h₂, h₃, h₄, h₅]
    rw [hescape, hunit]
    exact .code (number?_control hcontrol) h
  · have hescape : escapeChar c = [c] := by
      simp [escapeChar, hquote, hslash, h₁, h₂, h₃, h₄, h₅, hcontrol]
    have hunit : unitOf c = .char c := by simp [unitOf, hcontrol]
    rw [hescape, hunit]
    exact .plain (Nat.le_of_not_lt hcontrol) hquote hslash h

theorem writesUnits_flatMap (content : List Char) :
    WritesUnits (content.flatMap escapeChar) (content.map unitOf) := by
  induction content with
  | nil => exact .nil
  | cons c content ih => exact ih.escaped c

/-- A unit below the surrogates stands for a character by itself. -/
theorem decodeUnits_code {n : Nat} (h : n < 0xD800) (units : List CodeUnit) :
    decodeUnits (.code n :: units) = (decodeUnits units).map (Char.ofNat n :: ·) := by
  have hleading : isLeading n = false := by simp [isLeading]; omega
  have htrailing : isTrailing n = false := by simp [isTrailing]; omega
  rcases units with _ | ⟨_ | _, units⟩ <;> simp [decodeUnits, hleading, htrailing]

theorem decodeUnits_unitOf (content : List Char) :
    decodeUnits (content.map unitOf) = some content := by
  induction content with
  | nil => rfl
  | cons c content ih =>
    rw [List.map_cons]
    by_cases hcode : c.toNat < 32 ∧ c ∉ ['\x08', '\x09', '\x0a', '\x0c', '\x0d']
    · rw [unitOf, if_pos hcode, decodeUnits_code (Nat.lt_trans hcode.1 (by decide)), ih,
        Char.ofNat_toNat]
      rfl
    · rw [unitOf, if_neg hcode, decodeUnits, ih]
      rfl

/-- A quoted text is a string of JSON, and the text is what it says. -/
theorem writesString_quoteString (s : String) : WritesString (quoteString s) (some s) := by
  have hwrites := WritesString.intro (writesUnits_flatMap s.toList)
  rwa [decodeUnits_unitOf, Option.map_some, String.ofList_toList] at hwrites

end Crosstab.Json

import Crosstab.Json.Printer
import Crosstab.Json.Token
import Crosstab.Proofs.Decimal.Reading

/-!
# The numerals of JSON

A numeral is an optional minus, digits without a needless zero in front, an optional fraction and an
optional power of ten. Scanning finds it in front of whatever does not go on with it, and both kinds
of numbers are written as numerals: an integer in digits alone, a real with a fraction or a power.

    number ──text──▶ characters ──WritesNumeral──▶ numeral
                     characters ++ rest ──scanNumeral──▶ numeral, rest
-/

namespace Crosstab.Json

open Decimal (Numeral Spelling isDigit readDigits digitChars)

/-! ### What writes a numeral -/

/-- Digits, at least one of them. -/
structure IsDigits (digits : List Char) : Prop where
  ne_nil : digits ≠ []
  all : digits.all isDigit = true

/-- The sign in front of a numeral. -/
inductive WritesSign : List Char → Bool → Prop
  | none : WritesSign [] false
  | minus : WritesSign ['-'] true

/-- The sign in front of a power of ten. -/
inductive WritesMark : List Char → Bool → Prop
  | none : WritesMark [] false
  | plus : WritesMark ['+'] false
  | minus : WritesMark ['-'] true

/-- The digits in front of the point: a zero stands alone. -/
inductive IsWhole : List Char → Prop
  | zero : IsWhole ['0']
  | digits {c cs} (hzero : c ≠ '0') (h : IsDigits (c :: cs)) : IsWhole (c :: cs)

/-- What may stand behind the whole part, and the numeral that it makes of it. -/
inductive WritesFraction (numeral : Numeral) : List Char → Numeral → Prop
  | none : WritesFraction numeral [] numeral
  | digits {digits} (h : IsDigits digits) :
    WritesFraction numeral ('.' :: digits) (numeral.withFraction digits)

/-- What may stand behind the fraction, and the numeral that it makes of it. -/
inductive WritesPower (numeral : Numeral) : List Char → Numeral → Prop
  | none : WritesPower numeral [] numeral
  | digits {e mark negative digits} (he : e = 'e' ∨ e = 'E') (hmark : WritesMark mark negative)
    (h : IsDigits digits) :
    WritesPower numeral (e :: (mark ++ digits)) (numeral.withExponent negative digits)

/-- Characters write a numeral. -/
inductive WritesNumeral : List Char → Numeral → Prop
  | intro {sign whole fraction power negative middle numeral} (hsign : WritesSign sign negative)
    (hwhole : IsWhole whole)
    (hfraction : WritesFraction ⟨negative, readDigits 0 whole, 0, true⟩ fraction middle)
    (hpower : WritesPower middle power numeral) :
    WritesNumeral (sign ++ (whole ++ (fraction ++ power))) numeral

/-! ### Scanning -/

/-- What stands behind a numeral does not go on with it. -/
def EndsNumeral (rest : List Char) : Prop :=
  ∀ c ∈ rest.head?, isDigit c = false ∧ c ≠ '.' ∧ c ≠ 'e' ∧ c ≠ 'E'

theorem endsNumeral_nil : EndsNumeral [] := by
  intro c hc
  cases hc

theorem endsNumeral_cons {c : Char} (h : isDigit c = false ∧ c ≠ '.' ∧ c ≠ 'e' ∧ c ≠ 'E')
    (rest : List Char) : EndsNumeral (c :: rest) := by
  rintro _ ⟨⟩
  exact h

section

variable {numeral middle result : Numeral} {digits fraction power whole rest cs : List Char}

theorem takeWhile_isDigit_cons {c : Char} (h : isDigit c = false) (cs : List Char) :
    (c :: cs).takeWhile isDigit = [] :=
  List.takeWhile_cons_of_neg (by simp [h])

theorem EndsNumeral.takeWhile_eq (h : EndsNumeral rest) : rest.takeWhile isDigit = [] := by
  rcases rest with _ | ⟨c, cs⟩
  · rfl
  · exact takeWhile_isDigit_cons (h c rfl).1 cs

theorem EndsNumeral.scanExponent_eq (h : EndsNumeral rest) (numeral : Numeral) :
    numeral.scanExponent rest = some (numeral, rest) := by
  rcases rest with _ | ⟨c, cs⟩
  · rfl
  · obtain ⟨-, -, he, hE⟩ := h c rfl
    rw [Numeral.scanExponent, if_neg (not_or.2 ⟨he, hE⟩)]

theorem IsDigits.exists_cons (h : IsDigits digits) :
    ∃ c cs, digits = c :: cs ∧ isDigit c = true := by
  rcases digits with _ | ⟨c, cs⟩
  · exact absurd rfl h.ne_nil
  · exact ⟨c, cs, rfl, (Bool.and_eq_true_iff.1 h.all).1⟩

theorem IsWhole.isDigits (h : IsWhole whole) : IsDigits whole := by
  cases h with
  | zero => exact ⟨List.cons_ne_nil _ _, rfl⟩
  | digits _ h => exact h

theorem WritesMark.takeSign_eq {mark : List Char} {negative : Bool} (h : WritesMark mark negative)
    (hdigits : IsDigits digits) (rest : List Char) :
    Numeral.takeSign (mark ++ digits ++ rest) = (negative, digits ++ rest) := by
  obtain ⟨c, cs, rfl, hc⟩ := hdigits.exists_cons
  cases h with
  | none => exact Spelling.takeSign_signed hc (cs ++ rest) false
  | plus => rfl
  | minus => rfl

namespace WritesPower

theorem takeWhile_eq (h : WritesPower numeral power result) (hrest : EndsNumeral rest) :
    (power ++ rest).takeWhile isDigit = [] := by
  cases h with
  | none => exact hrest.takeWhile_eq
  | digits he _ _ => rcases he with rfl | rfl <;> exact takeWhile_isDigit_cons (by decide) _

theorem scanExponent_eq (h : WritesPower numeral power result) (hrest : EndsNumeral rest) :
    numeral.scanExponent (power ++ rest) = some (result, rest) := by
  cases h with
  | none => exact hrest.scanExponent_eq numeral
  | digits he hmark hdigits =>
    rw [List.cons_append, Numeral.scanExponent, if_pos he, hmark.takeSign_eq hdigits]
    dsimp only
    rw [Spelling.takeWhile_digits hdigits.all hrest.takeWhile_eq,
      Spelling.dropWhile_digits hdigits.all hrest.takeWhile_eq,
      if_neg (by simp [hdigits.ne_nil])]

theorem ne_point_cons (h : WritesPower numeral power result) (hrest : EndsNumeral rest) :
    power ++ rest ≠ '.' :: cs := by
  intro hpoint
  cases h with
  | none =>
    rw [List.nil_append] at hpoint
    subst hpoint
    exact (hrest '.' rfl).2.1 rfl
  | digits he _ _ =>
    have hhead := (List.cons.inj hpoint).1
    rcases he with rfl | rfl <;> exact absurd hhead (by decide)

end WritesPower

namespace WritesFraction

theorem takeWhile_eq (h : WritesFraction numeral fraction middle)
    (hpower : WritesPower middle power result) (hrest : EndsNumeral rest) :
    (fraction ++ power ++ rest).takeWhile isDigit = [] := by
  cases h with
  | none => exact hpower.takeWhile_eq hrest
  | digits _ => exact takeWhile_isDigit_cons (by decide) _

theorem scanFraction_eq (h : WritesFraction numeral fraction middle)
    (hpower : WritesPower middle power result) (hrest : EndsNumeral rest) :
    numeral.scanFraction (fraction ++ power ++ rest) = some (result, rest) := by
  cases h with
  | none =>
    rw [List.nil_append]
    unfold Numeral.scanFraction
    split
    · next hpoint => exact absurd hpoint (hpower.ne_point_cons hrest)
    · exact hpower.scanExponent_eq hrest
  | digits hdigits =>
    have hbehind := hpower.takeWhile_eq hrest
    rw [List.append_assoc, List.cons_append, Numeral.scanFraction,
      Spelling.takeWhile_digits hdigits.all hbehind,
      Spelling.dropWhile_digits hdigits.all hbehind, if_neg (by simp [hdigits.ne_nil])]
    exact hpower.scanExponent_eq hrest

end WritesFraction

theorem IsWhole.scanMagnitude_eq {negative : Bool} (h : IsWhole whole)
    (hfraction : WritesFraction ⟨negative, readDigits 0 whole, 0, true⟩ fraction middle)
    (hpower : WritesPower middle power result) (hrest : EndsNumeral rest) :
    scanMagnitude negative (whole ++ (fraction ++ power) ++ rest) = some (result, rest) := by
  have hscan := hfraction.scanFraction_eq hpower hrest
  cases h with
  | zero => exact hscan
  | @digits c cs hzero hdigits =>
    have hbehind := hfraction.takeWhile_eq hpower hrest
    obtain ⟨hc, hcs⟩ := Bool.and_eq_true_iff.1 hdigits.all
    rw [List.append_assoc, List.cons_append, scanMagnitude, if_neg hzero, if_pos hc,
      Spelling.takeWhile_digits hcs hbehind, Spelling.dropWhile_digits hcs hbehind]
    exact hscan

/-- **Numerals.** Characters that write a numeral are scanned as it, whatever stands behind them, as
long as that does not go on with it. -/
theorem WritesNumeral.scanNumeral_eq (h : WritesNumeral cs numeral) (hrest : EndsNumeral rest) :
    scanNumeral (cs ++ rest) = some (numeral, rest) := by
  cases h with
  | intro hsign hwhole hfraction hpower =>
    have hscan := hwhole.scanMagnitude_eq hfraction hpower hrest
    cases hsign with
    | minus => exact hscan
    | none =>
      obtain ⟨c, cs, rfl, hc⟩ := hwhole.isDigits.exists_cons
      unfold scanNumeral
      split
      · next heq =>
        rw [(List.cons.inj heq).1] at hc
        exact absurd hc (by decide)
      · exact hscan

/-- A numeral starts with a minus or with a digit. -/
theorem WritesNumeral.exists_cons (h : WritesNumeral cs numeral) :
    ∃ c ds, cs = c :: ds ∧ (c = '-' ∨ isDigit c = true) := by
  cases h with
  | intro hsign hwhole _ _ =>
    cases hsign with
    | minus => exact ⟨'-', _, rfl, .inl rfl⟩
    | none =>
      obtain ⟨c, cs, rfl, hc⟩ := hwhole.isDigits.exists_cons
      exact ⟨c, _, rfl, .inr hc⟩

end

/-! ### Integers -/

/-- The numeral of an integer. -/
def numeralOf (n : Int) : Numeral := ⟨decide (n < 0), n.natAbs, 0, true⟩

theorem isWhole_digitChars (n : Nat) : IsWhole (digitChars n) := by
  rcases Nat.eq_zero_or_pos n with rfl | hpos
  · exact .zero
  have hdigits : IsDigits (digitChars n) :=
    ⟨Decimal.digitChars_ne_nil n, Decimal.all_isDigit_digitChars n⟩
  have hhead := Decimal.head?_digitChars hpos
  generalize digitChars n = digits at *
  rcases digits with _ | ⟨c, cs⟩
  · exact absurd rfl hdigits.ne_nil
  · exact .digits (fun hzero => hhead (congrArg some hzero)) hdigits

theorem writesNumeral_toString (n : Int) : WritesNumeral (toString n).toList (numeralOf n) := by
  have hsign : WritesSign (if n < 0 then ['-'] else []) (decide (n < 0)) := by
    by_cases h : n < 0
    · simpa only [h, if_true, decide_true] using WritesSign.minus
    · simpa only [h, if_false, decide_false] using WritesSign.none
  have hnumeral := WritesNumeral.intro hsign (isWhole_digitChars n.natAbs) .none .none
  rwa [Decimal.readDigits_digitChars, List.append_nil, List.append_nil,
    ← Decimal.toList_toString] at hnumeral

/-! ### Reals -/

section

variable {spelling : Spelling} {mark : List Char}

theorem isWhole_of_strict (h : spelling.Strict) : IsWhole spelling.whole := by
  have hdigits : IsDigits spelling.whole := ⟨h.whole_ne, h.whole_digits⟩
  have hleading := h.leading
  generalize spelling.whole = whole at *
  rcases whole with _ | ⟨c, cs⟩
  · exact absurd rfl hdigits.ne_nil
  · by_cases hzero : c = '0'
    · rw [hleading (congrArg some hzero)]
      exact .zero
    · exact .digits hzero hdigits

/-- A strict spelling with a minus or without one writes a numeral of JSON. -/
theorem writesNumeral_of_strict (h : spelling.Strict) (hmark : WritesMark mark false)
    (negative : Bool) :
    WritesNumeral ((if negative then ['-'] else []) ++ spelling.markedText mark)
      { spelling.numeral with negative } := by
  have hsign : WritesSign (if negative = true then ['-'] else []) negative := by
    cases negative
    · exact .none
    · exact .minus
  have hwhole := isWhole_of_strict h
  obtain ⟨⟨-, -, hfraction, hne, hpower⟩, -, hfractionNe⟩ := h
  rcases spelling with ⟨whole, _ | fraction, _ | ⟨falling, power⟩⟩
  · exact .intro hsign hwhole .none .none
  · have hmark : WritesMark (if falling = true then ['-'] else mark) falling := by
      cases falling
      · exact hmark
      · exact .minus
    exact .intro hsign hwhole .none (.digits (.inl rfl) hmark ⟨hne _ rfl, hpower _ rfl⟩)
  · exact .intro hsign hwhole (.digits ⟨hfractionNe _ rfl, hfraction _ rfl⟩) .none
  · have hmark : WritesMark (if falling = true then ['-'] else mark) falling := by
      cases falling
      · exact hmark
      · exact .minus
    exact .intro hsign hwhole (.digits ⟨hfractionNe _ rfl, hfraction _ rfl⟩)
      (.digits (.inl rfl) hmark ⟨hne _ rfl, hpower _ rfl⟩)

end

/-- The text of a finite real writes a numeral that denotes it, and no integer. -/
theorem exists_writesNumeral_real {x : Binary64} (hfinite : x.isFinite = true) :
    ∃ numeral, WritesNumeral (realLayout.write x).toList numeral ∧ numeral.integral = false ∧
      numeral.toBinary64 = x := by
  obtain ⟨spelling, hstrict, htext, hintegral, -, hread⟩ :=
    Decimal.exists_strict_writeMagnitude realLayout (of_decide_eq_true hfinite)
  refine ⟨{ spelling.numeral with negative := x.isNegative }, ?_, hintegral, ?_⟩
  · rw [Decimal.toList_write hfinite, ← htext]
    exact writesNumeral_of_strict hstrict .plus x.isNegative
  · rw [hread, Binary64.ofRank_rank]

end Crosstab.Json

import Crosstab.Decimal.Layout
import Crosstab.Decimal.Numeral
import Crosstab.Proofs.Decimal.Shortest

/-!
# Written reals read back

The text that a layout writes for a finite number is a numeral again: its digits are those of the
shortest decimal, moved to the left of the point where that has no fraction, and its value is the
number, sign included. Zero has a text of its own.

    number ──shortest──▶ decimal ──writeMagnitude──▶ text
    text ──spelled──▶ numeral ──toBinary64──▶ number
-/

namespace Crosstab.Decimal

open Binary64 (RoundsTo)

/-! ### Digits -/

theorem lt_pow_digits (n : Nat) : n < 10 ^ (Nat.toDigits 10 n).length :=
  (Nat.length_toDigits_le_iff (by decide) Nat.length_toDigits_pos).1 (Nat.le_refl _)

theorem pow_digits_le {n : Nat} (hpos : 0 < n) : 10 ^ ((Nat.toDigits 10 n).length - 1) ≤ n := by
  rcases Nat.eq_zero_or_pos ((Nat.toDigits 10 n).length - 1) with hone | hmore
  · rw [hone]
    exact hpos
  · refine Nat.le_of_not_lt fun hlt => ?_
    have := (Nat.length_toDigits_le_iff (b := 10) (by decide) hmore).2 hlt
    omega

/-- A power of ten is more than the power of two with three times the exponent. -/
theorem two_pow_le_ten_pow (n : Nat) : 2 ^ (3 * n) ≤ 10 ^ n := by
  rw [Nat.pow_mul]
  exact Nat.pow_le_pow_left (by decide) n

namespace Numeral

/-- The decimal that a numeral spells, without its sign. -/
def magnitude (numeral : Numeral) : Scientific := ⟨numeral.coefficient, numeral.exponent⟩

section Leading

variable {numeral : Numeral} {rank : Nat}

theorem coefficient_pos (hpos : 0 < rank)
    (h : RoundsTo rank numeral.magnitude.ratio.1 numeral.magnitude.ratio.2) :
    0 < numeral.coefficient := by
  refine Nat.pos_of_ne_zero fun hzero => ?_
  have hle := den_le_of_roundsTo hpos h
  have hden := numeral.magnitude.ratio_pos
  have hnum : numeral.magnitude.ratio.1 = 0 := by
    unfold Scientific.ratio magnitude
    split <;> simp [hzero]
  rw [hnum, Nat.zero_mul] at hle
  omega

theorem leading_ge (hpos : 0 < rank)
    (h : RoundsTo rank numeral.magnitude.ratio.1 numeral.magnitude.ratio.2) :
    -400 ≤ numeral.exponent + (Nat.toDigits 10 numeral.coefficient).length := by
  refine Int.not_lt.1 fun hsmall => ?_
  have hle := den_le_of_roundsTo hpos h
  unfold Scientific.ratio magnitude at hle
  rw [if_neg (by dsimp only; omega)] at hle
  dsimp only at hle
  have hlt := lt_pow_digits numeral.coefficient
  generalize (Nat.toDigits 10 numeral.coefficient).length = count at *
  have hpower : count + 401 ≤ (-numeral.exponent).toNat := by omega
  -- a decimal that small would be less than half a unit
  have hden : 10 ^ count * 2 ^ (3 * 401) ≤ 10 ^ (-numeral.exponent).toNat := by
    refine Nat.le_trans (Nat.mul_le_mul_left _ (two_pow_le_ten_pow 401)) ?_
    rw [← Nat.pow_add]
    exact Nat.pow_le_pow_right (by decide) hpower
  have hnum : numeral.coefficient * 2 ^ 1075 < 10 ^ count * 2 ^ (3 * 401) := by
    refine Nat.lt_of_lt_of_le (Nat.mul_lt_mul_of_pos_right hlt (Nat.two_pow_pos _)) ?_
    exact Nat.mul_le_mul_left _ (Nat.pow_le_pow_right (by decide) (by decide))
  omega

theorem leading_le (hpos : 0 < rank) (hfinite : rank < Binary64.infiniteRank)
    (h : RoundsTo rank numeral.magnitude.ratio.1 numeral.magnitude.ratio.2) :
    numeral.exponent + (Nat.toDigits 10 numeral.coefficient).length ≤ 400 := by
  refine Int.not_lt.1 fun hlarge => ?_
  have hlt := num_lt_of_roundsTo hfinite numeral.magnitude.ratio_pos h
  have hge := pow_digits_le (coefficient_pos hpos h)
  -- a decimal that large would be no finite number
  have hbound : 2 ^ 1024 ≤ 10 ^ 400 :=
    Nat.le_trans (Nat.pow_le_pow_right (by decide) (by decide)) (two_pow_le_ten_pow 400)
  unfold Scientific.ratio magnitude at hlt
  generalize (Nat.toDigits 10 numeral.coefficient).length = count at *
  refine Nat.not_le_of_lt hlt (Nat.le_trans (Nat.mul_le_mul_right _ hbound) ?_)
  split
  · next hwhole =>
    dsimp only at hwhole ⊢
    refine Nat.le_trans ?_ (Nat.mul_le_mul_right _ hge)
    rw [Nat.mul_one, ← Nat.pow_add]
    exact Nat.pow_le_pow_right (by decide) (by omega)
  · next hfraction =>
    dsimp only at hfraction ⊢
    refine Nat.le_trans ?_ hge
    rw [← Nat.pow_add]
    exact Nat.pow_le_pow_right (by decide) (by omega)

end Leading

/-- **Reading what is rounded.** A numeral whose decimal is in the interval of a finite rank denotes
the number of that rank. -/
theorem toBinary64_eq {numeral : Numeral} {rank : Nat} (hpos : 0 < rank)
    (hfinite : rank < Binary64.infiniteRank)
    (h : RoundsTo rank numeral.magnitude.ratio.1 numeral.magnitude.ratio.2) :
    numeral.toBinary64 = .ofRank numeral.negative rank := by
  have hcoefficient := coefficient_pos hpos h
  have hge := leading_ge hpos h
  have hle := leading_le hpos hfinite h
  have hrank := Binary64.nearestRank_eq hpos hfinite numeral.magnitude.ratio_pos h
  unfold toBinary64
  dsimp only
  -- neither the way out for zero nor that for numbers out of range is taken
  rw [if_neg (by simp; omega), if_neg (by omega)]
  unfold Scientific.ratio magnitude at hrank
  split
  · next hwhole =>
    rw [if_pos hwhole] at hrank
    rw [Binary64.ofRatio, hrank]
  · next hfraction =>
    rw [if_neg hfraction] at hrank
    rw [Binary64.ofRatio, hrank]

end Numeral

/-! ### Lists of digits -/

theorem isDigit_eq (c : Char) : isDigit c = c.isDigit := rfl

theorem readDigits_eq (start : Nat) (digits : List Char) :
    readDigits start digits = Nat.ofDigitChars 10 digits start := by
  rw [readDigits, Nat.ofDigitChars_eq_foldl]
  simp only [Nat.mul_comm]

theorem readDigits_append (start : Nat) (ds es : List Char) :
    readDigits start (ds ++ es) = readDigits (readDigits start ds) es :=
  List.foldl_append

theorem readDigits_digitChars (n : Nat) : readDigits 0 (digitChars n) = n := by
  rw [readDigits_eq, digitChars, Nat.ofDigitChars_ten_toDigits]

theorem readDigits_zeros (start count : Nat) :
    readDigits start (List.replicate count '0') = start * 10 ^ count := by
  rw [readDigits_eq, Nat.ofDigitChars_replicate_zero, Nat.mul_comm]

theorem all_isDigit_digitChars (n : Nat) : (digitChars n).all isDigit = true := by
  rw [List.all_eq_true]
  intro c hc
  exact Nat.isDigit_of_mem_toDigits (by decide) (by decide) hc

theorem digitChars_ne_nil (n : Nat) : digitChars n ≠ [] := Nat.toDigits_ne_nil

/-- The digits of a number start with a zero only if it is zero. -/
theorem head?_digitChars {n : Nat} (h : 0 < n) : (digitChars n).head? ≠ some '0' := by
  induction n using Nat.strongRecOn with
  | _ n ih =>
    rw [digitChars, Nat.toDigits_eq_if (by decide)]
    split
    · next hlt =>
      have hdigit : ∀ d < 10, 0 < d → [Nat.digitChar d].head? ≠ some '0' := by decide
      exact hdigit n hlt h
    · next hge =>
      have hquotient := ih (n / 10) (by omega) (by omega)
      rcases hdigits : digitChars (n / 10) with _ | ⟨c, cs⟩
      · exact absurd hdigits (digitChars_ne_nil _)
      · rw [hdigits] at hquotient
        rw [digitChars] at hdigits
        rw [hdigits]
        exact hquotient

/-- An integer is written with the digits of its magnitude, behind a minus if it is negative. -/
theorem toList_toString (n : Int) :
    (toString n).toList = (if n < 0 then ['-'] else []) ++ digitChars n.natAbs := by
  rw [Int.toString_eq_repr, Int.repr_eq_if, digitChars]
  by_cases h : 0 ≤ n
  · have habs : n.natAbs = n.toNat := by omega
    rw [if_pos h, Nat.toList_repr, habs]
    simp [Int.not_lt.2 h]
  · have habs : n.natAbs = (-n).toNat := by omega
    rw [if_neg h, String.toList_append, Nat.toList_repr, habs]
    simp [Int.not_le.1 h]

/-! ### Spelled numerals -/

/-- A numeral without sign in its parts. -/
structure Spelling where
  whole : List Char
  /-- The digits behind a point. -/
  fraction : Option (List Char)
  /-- The sign and the digits of a power of ten. -/
  power : Option (Bool × List Char)

namespace Spelling

/-- Every part that stands has digits, and nothing else. -/
structure Sound (spelling : Spelling) : Prop where
  whole_ne : spelling.whole ≠ []
  whole_digits : spelling.whole.all isDigit = true
  fraction_digits : ∀ digits ∈ spelling.fraction, digits.all isDigit = true
  power_ne : ∀ power ∈ spelling.power, power.2 ≠ []
  power_digits : ∀ power ∈ spelling.power, power.2.all isDigit = true

/-- The power of ten as it is written. -/
def powerText : Option (Bool × List Char) → List Char
  | none => []
  | some (negative, digits) => 'e' :: ((if negative then ['-'] else []) ++ digits)

/-- The fraction as it is written. -/
def fractionText : Option (List Char) → List Char
  | none => []
  | some digits => '.' :: digits

/-- The numeral as it is written. -/
def text (spelling : Spelling) : List Char :=
  spelling.whole ++ (fractionText spelling.fraction ++ powerText spelling.power)

/-- What the parts up to the power say. -/
def mantissa (spelling : Spelling) : Numeral :=
  let whole : Numeral := ⟨false, readDigits 0 spelling.whole, 0, true⟩
  spelling.fraction.elim whole whole.withFraction

/-- The numeral. -/
def numeral (spelling : Spelling) : Numeral :=
  spelling.power.elim spelling.mantissa fun power => spelling.mantissa.withExponent power.1 power.2

/-- What is spelled has no sign. -/
theorem positive_numeral (spelling : Spelling) :
    { spelling.numeral with negative := false } = spelling.numeral := by
  rcases spelling with ⟨whole, _ | fraction, _ | power⟩ <;> rfl

variable {spelling : Spelling}

theorem takeWhile_digits {digits : List Char} (h : digits.all isDigit = true) {rest : List Char}
    (hrest : rest.takeWhile isDigit = []) : (digits ++ rest).takeWhile isDigit = digits := by
  rw [List.takeWhile_append_of_pos (List.all_eq_true.1 h), hrest, List.append_nil]

theorem dropWhile_digits {digits : List Char} (h : digits.all isDigit = true) {rest : List Char}
    (hrest : rest.takeWhile isDigit = []) : (digits ++ rest).dropWhile isDigit = rest := by
  rw [List.dropWhile_append_of_pos (List.all_eq_true.1 h)]
  have := List.takeWhile_append_dropWhile (p := isDigit) (l := rest)
  rwa [hrest, List.nil_append] at this

theorem takeWhile_powerText (power : Option (Bool × List Char)) :
    (powerText power).takeWhile isDigit = [] := by
  rcases power with _ | power <;> rfl

theorem takeWhile_fractionText (fraction : Option (List Char)) (power) :
    (fractionText fraction ++ powerText power).takeWhile isDigit = [] := by
  rcases fraction with _ | digits
  · exact takeWhile_powerText power
  · rfl

theorem takeSign_signed {c : Char} (hc : isDigit c = true) (cs : List Char) (negative : Bool) :
    Numeral.takeSign ((if negative then ['-'] else []) ++ c :: cs) = (negative, c :: cs) := by
  cases negative with
  | true => rfl
  | false =>
    show Numeral.takeSign (c :: cs) = (false, c :: cs)
    unfold Numeral.takeSign
    split
    · next heq =>
      obtain ⟨rfl, -⟩ := List.cons.inj heq
      exact absurd hc (by decide)
    · next heq =>
      obtain ⟨rfl, -⟩ := List.cons.inj heq
      exact absurd hc (by decide)
    · rfl

theorem scanExponent_powerText (numeral : Numeral) (power : Option (Bool × List Char))
    (hne : ∀ p ∈ power, p.2 ≠ []) (hdigits : ∀ p ∈ power, p.2.all isDigit = true) :
    numeral.scanExponent (powerText power) =
      some (power.elim numeral fun p => numeral.withExponent p.1 p.2, []) := by
  rcases power with _ | ⟨negative, digits⟩
  · rfl
  have hdigits : digits.all isDigit = true := hdigits _ rfl
  have htake := takeWhile_digits hdigits (List.takeWhile_nil : [].takeWhile isDigit = [])
  have hdrop := dropWhile_digits hdigits (List.takeWhile_nil : [].takeWhile isDigit = [])
  rw [List.append_nil] at htake hdrop
  rcases digits with _ | ⟨c, cs⟩
  · exact absurd rfl (hne _ rfl)
  have hc : isDigit c = true := (Bool.and_eq_true_iff.1 hdigits).1
  simp only [powerText, Numeral.scanExponent, true_or, if_true, takeSign_signed hc, htake, hdrop]
  simp

/-- The text of a numeral is read as the numeral, with the sign that has been read before it. -/
theorem unsigned?_text (h : spelling.Sound) (negative : Bool) :
    Numeral.unsigned? negative spelling.text = some { spelling.numeral with negative } := by
  have hrest := takeWhile_fractionText spelling.fraction spelling.power
  unfold Numeral.unsigned? text
  rw [takeWhile_digits h.whole_digits hrest, dropWhile_digits h.whole_digits hrest]
  have hpower := fun numeral =>
    scanExponent_powerText numeral spelling.power h.power_ne h.power_digits
  -- the sign is carried along and decides nothing
  have hsign (numeral : Numeral) : (spelling.power.elim { numeral with negative } fun power =>
      Numeral.withExponent { numeral with negative } power.1 power.2) =
      { (spelling.power.elim numeral fun power => numeral.withExponent power.1 power.2) with
        negative } := by
    rcases spelling.power with _ | power <;> rfl
  rcases hfraction : spelling.fraction with _ | digits
  · have hpoint (behind : List Char) : powerText spelling.power ≠ '.' :: behind := by
      rcases spelling.power with _ | power <;> simp [powerText]
    simp [fractionText, h.whole_ne, hpower, numeral, mantissa, hfraction, ← hsign]
  · have hdigits := h.fraction_digits digits hfraction
    have hbehind := takeWhile_powerText spelling.power
    simp only [fractionText, List.cons_append, takeWhile_digits hdigits hbehind,
      dropWhile_digits hdigits hbehind, hpower]
    simp [h.whole_ne, numeral, mantissa, hfraction, ← hsign, Numeral.withFraction]

/-! ### Layouts -/

/-- The power of ten as it is written where a mark stands in front of a positive one. -/
def markedPowerText (mark : List Char) : Option (Bool × List Char) → List Char
  | none => []
  | some (negative, digits) => 'e' :: ((if negative then ['-'] else mark) ++ digits)

/-- The numeral as it is written with such a mark. -/
def markedText (mark : List Char) (spelling : Spelling) : List Char :=
  spelling.whole ++ (fractionText spelling.fraction ++ markedPowerText mark spelling.power)

theorem markedText_nil (spelling : Spelling) : spelling.markedText [] = spelling.text := by
  rcases spelling with ⟨whole, fraction, _ | power⟩ <;> rfl

/-- No zero stands in front for nothing, and a point only in front of digits. -/
structure Strict (spelling : Spelling) : Prop extends Sound spelling where
  leading : spelling.whole.head? = some '0' → spelling.whole = ['0']
  fraction_ne : ∀ digits ∈ spelling.fraction, digits ≠ []

/-- The spelling of a text stands for a decimal, as a real: a number that the decimal is rounded to
is one that the numeral is rounded to. -/
structure Spells (spelling : Spelling) (mark text : List Char) (decimal : Scientific) : Prop where
  strict : spelling.Strict
  text_eq : spelling.markedText mark = text
  integral_eq : spelling.numeral.integral = false
  roundsTo : ∀ rank, RoundsTo rank decimal.ratio.1 decimal.ratio.2 →
    RoundsTo rank spelling.numeral.magnitude.ratio.1 spelling.numeral.magnitude.ratio.2

theorem spells_of_eq {mark text : List Char} {decimal : Scientific} (hstrict : spelling.Strict)
    (htext : spelling.markedText mark = text) (hintegral : spelling.numeral.integral = false)
    (hdecimal : spelling.numeral.magnitude = decimal) : spelling.Spells mark text decimal :=
  ⟨hstrict, htext, hintegral, fun rank h => by rwa [hdecimal]⟩

theorem all_isDigit_zeros (count : Nat) : (List.replicate count '0').all isDigit = true := by
  rw [List.all_replicate]
  split <;> decide

/-- Digits that do not start with a zero start with none in front either. -/
theorem leading_of_head?_ne {cs : List Char} (h : cs.head? ≠ some '0') :
    cs.head? = some '0' → cs = ['0'] :=
  fun hzero => absurd hzero h

/-- A decimal without fraction: its power of ten becomes zeros, and a zero stands behind a point. -/
theorem exists_spells_whole (mark : List Char) {digits : Nat} (hpos : 0 < digits) (power : Nat) :
    ∃ spelling : Spelling, spelling.Spells mark
      (positional (digitChars digits) (power : Int)) ⟨digits, power⟩ := by
  refine ⟨⟨digitChars digits ++ List.replicate power '0', some ['0'], none⟩,
    ⟨⟨⟨?_, ?_, ?_, ?_, ?_⟩, ?_, ?_⟩, ?_, rfl, ?_⟩⟩
  · simp [digitChars_ne_nil]
  · rw [List.all_append, all_isDigit_digitChars, all_isDigit_zeros]
    rfl
  · rintro _ ⟨⟩
    decide
  · rintro _ ⟨⟩
  · rintro _ ⟨⟩
  · refine leading_of_head?_ne ?_
    have hhead := head?_digitChars hpos
    rcases hdigits : digitChars digits with _ | ⟨d, ds⟩
    · exact absurd hdigits (digitChars_ne_nil digits)
    · rw [hdigits] at hhead
      exact hhead
  · rintro _ ⟨⟩
    exact List.cons_ne_nil _ _
  · unfold positional
    rw [if_pos (Int.natCast_nonneg power)]
    simp [markedText, fractionText, markedPowerText]
  · intro rank h
    have hnumeral : (numeral ⟨digitChars digits ++ List.replicate power '0', some ['0'], none⟩) =
        ⟨false, digits * 10 ^ power * 10, -1, false⟩ := by
      simp [numeral, mantissa, Numeral.withFraction, readDigits_append, readDigits_digitChars,
        readDigits_zeros]
      simp [readDigits]
    rw [hnumeral]
    have hratio : Scientific.ratio ⟨digits, power⟩ = (digits * 10 ^ power, 1) := by
      simp [Scientific.ratio]
    rw [hratio] at h
    exact h.scale (by decide)

/-- A decimal with all of its digits behind the point, or some of them before it. -/
theorem exists_spells_fraction (mark : List Char) {digits : Nat} (hpos : 0 < digits) (places : Nat)
    (hplaces : 0 < places) : ∃ spelling : Spelling, spelling.Spells mark
      (positional (digitChars digits) (-(places : Int))) ⟨digits, -(places : Int)⟩ := by
  have hnegative : ¬ (0 : Int) ≤ -(places : Int) := by omega
  have hdigits := all_isDigit_digitChars digits
  unfold positional
  rw [if_neg hnegative]
  simp only [Int.neg_neg, Int.toNat_natCast]
  by_cases hlong : places < (digitChars digits).length
  · rw [if_pos hlong]
    -- the point stands between two digits
    generalize hcut : (digitChars digits).length - places = cut
    refine ⟨⟨(digitChars digits).take cut, some ((digitChars digits).drop cut), none⟩,
      spells_of_eq ⟨⟨?_, ?_, ?_, ?_, ?_⟩, ?_, ?_⟩ ?_ rfl ?_⟩
    · rw [← List.length_pos_iff, List.length_take]
      omega
    · exact List.all_eq_true.2 fun c hc => List.all_eq_true.1 hdigits c (List.mem_of_mem_take hc)
    · rintro _ ⟨⟩
      exact List.all_eq_true.2 fun c hc => List.all_eq_true.1 hdigits c (List.mem_of_mem_drop hc)
    · rintro _ ⟨⟩
    · rintro _ ⟨⟩
    · refine leading_of_head?_ne ?_
      rw [List.head?_take, if_neg (by omega)]
      exact head?_digitChars hpos
    · rintro _ ⟨⟩
      rw [← List.length_pos_iff, List.length_drop]
      omega
    · simp [markedText, fractionText, markedPowerText]
    · simp only [numeral, mantissa, Numeral.magnitude, Numeral.withFraction, Option.elim,
        ← readDigits_append, List.take_append_drop, readDigits_digitChars, List.length_drop]
      congr 1
      omega
  · rw [if_neg hlong]
    -- zeros stand between the point and the digits
    generalize hzeros : places - (digitChars digits).length = zeros
    refine ⟨⟨['0'], some (List.replicate zeros '0' ++ digitChars digits), none⟩,
      spells_of_eq ⟨⟨by simp, rfl, ?_, ?_, ?_⟩, fun _ => rfl, ?_⟩ ?_ rfl ?_⟩
    · rintro _ ⟨⟩
      rw [List.all_append, hdigits, all_isDigit_zeros]
      rfl
    · rintro _ ⟨⟩
    · rintro _ ⟨⟩
    · rintro _ ⟨⟩
      simp [digitChars_ne_nil]
    · simp [markedText, fractionText, markedPowerText]
    · have hzero : readDigits 0 ['0'] = 0 := rfl
      simp only [numeral, mantissa, Numeral.magnitude, Numeral.withFraction, Option.elim,
        readDigits_append, readDigits_zeros, hzero, Nat.zero_mul, readDigits_digitChars,
        List.length_append, List.length_replicate]
      congr 1
      omega

theorem markedPowerText_exponent (mark : String) (leading : Int) :
    markedPowerText mark.toList (some (decide (leading < 0), digitChars leading.natAbs)) =
      'e' :: if 0 ≤ leading then mark.toList ++ digitChars leading.toNat
        else '-' :: digitChars (-leading).toNat := by
  by_cases h : 0 ≤ leading
  · have habs : leading.natAbs = leading.toNat := by omega
    simp [markedPowerText, h, habs, Int.not_lt.2 h]
  · have habs : leading.natAbs = (-leading).toNat := by omega
    simp [markedPowerText, h, habs, Int.not_le.1 h]

theorem readDigits_exponent (leading : Int) :
    (if decide (leading < 0) = true then -(readDigits 0 (digitChars leading.natAbs) : Int)
      else (readDigits 0 (digitChars leading.natAbs) : Int)) = leading := by
  rw [readDigits_digitChars]
  split
  · next h =>
    have := of_decide_eq_true h
    omega
  · next h =>
    have := of_decide_eq_false (Bool.not_eq_true _ ▸ h)
    omega

/-- A decimal in exponent notation. -/
theorem exists_spells_power (mark : String) (digits : Nat) (leading : Int) :
    ∃ spelling : Spelling, spelling.Spells mark.toList
      (exponential mark (digitChars digits) leading)
      ⟨digits, leading - (digitChars digits).length + 1⟩ := by
  rcases hdigits : digitChars digits with _ | ⟨d, ds⟩
  · exact absurd hdigits (digitChars_ne_nil digits)
  have hall := all_isDigit_digitChars digits
  rw [hdigits, List.all_cons, Bool.and_eq_true] at hall
  have hread : readDigits 0 (d :: ds) = digits := by rw [← hdigits, readDigits_digitChars]
  have hpower := readDigits_exponent leading
  have htext := markedPowerText_exponent mark leading
  have hsound : ∀ power ∈ some (decide (leading < 0), digitChars leading.natAbs),
      power.2 ≠ [] ∧ power.2.all isDigit = true := by
    rintro _ ⟨⟩
    exact ⟨digitChars_ne_nil _, all_isDigit_digitChars _⟩
  have hleading : [d].head? = some '0' → [d] = ['0'] := fun hzero => by
    rw [Option.some.inj hzero]
  -- a single digit has no point behind it
  rcases ds with _ | ⟨e, es⟩
  · refine ⟨⟨[d], none, some (decide (leading < 0), digitChars leading.natAbs)⟩,
      spells_of_eq ⟨⟨by simp, by simpa using hall.1, ?_, fun p hp => (hsound p hp).1,
        fun p hp => (hsound p hp).2⟩, hleading, ?_⟩ ?_ rfl ?_⟩
    · rintro _ ⟨⟩
    · rintro _ ⟨⟩
    · simp only [markedText, fractionText, htext, exponential, List.nil_append]
    · simp only [numeral, mantissa, Numeral.magnitude, Numeral.withExponent, Option.elim, hpower,
        hread]
      congr 1
      simp
  · refine ⟨⟨[d], some (e :: es), some (decide (leading < 0), digitChars leading.natAbs)⟩,
      spells_of_eq ⟨⟨by simp, by simpa using hall.1, ?_, fun p hp => (hsound p hp).1,
        fun p hp => (hsound p hp).2⟩, hleading, ?_⟩ ?_ rfl ?_⟩
    · rintro _ ⟨⟩
      exact hall.2
    · rintro _ ⟨⟩
      exact List.cons_ne_nil _ _
    · simp only [markedText, fractionText, htext, exponential, List.cons_append, List.nil_append]
    · simp only [numeral, mantissa, Numeral.magnitude, Numeral.withExponent, Numeral.withFraction,
        Option.elim, hpower, ← readDigits_append, List.singleton_append, hread]
      congr 1
      simp only [List.length_cons]
      omega

theorem exists_spells (layout : Layout) (decimal : Scientific) (hpos : 0 < decimal.digits) :
    ∃ spelling : Spelling, spelling.Spells layout.exponentSign.toList
      (if layout.leastPositional ≤ decimal.exponent + (digitChars decimal.digits).length - 1 ∧
          decimal.exponent + (digitChars decimal.digits).length - 1 ≤ layout.greatestPositional then
        positional (digitChars decimal.digits) decimal.exponent
      else exponential layout.exponentSign (digitChars decimal.digits)
        (decimal.exponent + (digitChars decimal.digits).length - 1)) decimal := by
  obtain ⟨digits, exponent⟩ := decimal
  dsimp only
  split
  · rcases Int.lt_or_le exponent 0 with hfraction | hwhole
    · obtain ⟨places, rfl⟩ := Int.eq_negSucc_of_lt_zero hfraction
      exact exists_spells_fraction _ hpos (places + 1) (Nat.succ_pos places)
    · obtain ⟨power, rfl⟩ := Int.eq_ofNat_of_zero_le hwhole
      exact exists_spells_whole _ hpos power
  · obtain ⟨spelling, hspells⟩ := exists_spells_power layout.exponentSign digits
      (exponent + (digitChars digits).length - 1)
    have hexponent : exponent + (digitChars digits).length - 1 - (digitChars digits).length + 1 =
        exponent := by omega
    rw [hexponent] at hspells
    exact ⟨spelling, hspells⟩

end Spelling

theorem toList_write {layout : Layout} {x : Binary64} (hfinite : x.isFinite = true) :
    (layout.write x).toList =
      (if x.isNegative then ['-'] else []) ++ layout.writeMagnitude x.rank := by
  have hrank : x.rank < Binary64.infiniteRank := of_decide_eq_true hfinite
  have hnumber : x.isNaN = false := decide_eq_false (Nat.not_lt_of_lt hrank)
  unfold Layout.write
  rw [hnumber, hfinite]
  exact String.toList_ofList

/-- What a layout writes for a finite magnitude spells a real that is rounded to the magnitude, and
is read back as it with whatever sign stands before it. -/
theorem exists_strict_writeMagnitude (layout : Layout) {rank : Nat}
    (hfinite : rank < Binary64.infiniteRank) :
    ∃ spelling : Spelling, spelling.Strict ∧
      spelling.markedText layout.exponentSign.toList = layout.writeMagnitude rank ∧
      spelling.numeral.integral = false ∧
      RoundsTo rank spelling.numeral.magnitude.ratio.1 spelling.numeral.magnitude.ratio.2 ∧
      ∀ negative,
        Numeral.toBinary64 { spelling.numeral with negative } = .ofRank negative rank := by
  unfold Layout.writeMagnitude
  dsimp only
  by_cases hzero : rank = 0
  · subst hzero
    refine ⟨⟨['0'], some ['0'], none⟩, ⟨⟨by simp, rfl, ?_, ?_, ?_⟩, fun _ => rfl, ?_⟩, rfl, rfl,
      ?_, ?_⟩
    · rintro _ ⟨⟩
      rfl
    · rintro _ ⟨⟩
    · rintro _ ⟨⟩
    · rintro _ ⟨⟩
      exact List.cons_ne_nil _ _
    · exact Binary64.roundsTo_zero _
    · intro negative
      rfl
  · rw [if_neg hzero]
    have hpos := Nat.pos_of_ne_zero hzero
    have hrounds := roundsTo_shortest layout.tie hpos
    generalize shortest layout.tie rank = decimal at hrounds
    have hdigits : 0 < decimal.digits :=
      @Numeral.coefficient_pos ⟨false, decimal.digits, decimal.exponent, false⟩ rank hpos hrounds
    obtain ⟨spelling, hspells⟩ := Spelling.exists_spells layout decimal hdigits
    have hnumeral := hspells.roundsTo rank hrounds
    refine ⟨spelling, hspells.strict, hspells.text_eq, hspells.integral_eq, hnumeral,
      fun negative => ?_⟩
    exact Numeral.toBinary64_eq hpos hfinite hnumeral

/-- **Written magnitudes.** What a layout without an exponent sign writes for a finite magnitude
spells a real that is rounded to the magnitude, and is read back as it with whatever sign stands
before it. -/
theorem exists_spelling_writeMagnitude {layout : Layout} (hsign : layout.exponentSign = "")
    {rank : Nat} (hfinite : rank < Binary64.infiniteRank) :
    ∃ spelling : Spelling, spelling.Sound ∧ spelling.text = layout.writeMagnitude rank ∧
      spelling.numeral.integral = false ∧
      RoundsTo rank spelling.numeral.magnitude.ratio.1 spelling.numeral.magnitude.ratio.2 ∧
      ∀ negative,
        Numeral.toBinary64 { spelling.numeral with negative } = .ofRank negative rank := by
  obtain ⟨spelling, hstrict, htext, hread⟩ := exists_strict_writeMagnitude layout hfinite
  rw [hsign, String.toList_empty, Spelling.markedText_nil] at htext
  exact ⟨spelling, hstrict.toSound, htext, hread⟩

end Crosstab.Decimal

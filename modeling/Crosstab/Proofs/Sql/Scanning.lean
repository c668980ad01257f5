import Crosstab.Proofs.Decimal.Reading
import Crosstab.Proofs.Text.Quoted
import Crosstab.Sql.ColumnNaming
import Crosstab.Sql.Token

/-!
# Scanning written tokens

How the tokens of a text come about from its start: each lemma takes one written token off and
leaves the tokens of what follows. What may follow a token so that it ends there is a *break*: the
end of the text, a blank, a comma, a parenthesis or a point in front of a quote.

    scanned (written token ++ rest) = token :: scanned rest
-/

namespace Crosstab.Sql

open Decimal (Numeral Spelling isDigit)

/-- The tokens of a text as characters. -/
def scanned (cs : List Char) : List Token := (Lexeme.scan cs).map Lexeme.token

theorem tokens_eq (sql : String) : tokens sql = scanned sql.toList := rfl

/-! ### Between tokens -/

/-- Nothing is to be skipped in front of a text. -/
def Begins (cs : List Char) : Prop := ∀ gap, gap = .between ∨ gap = .blanks → skipGap gap cs = cs

/-- The characters that tokens start with and gaps do not; a minus starts either. -/
def isPlainStart (c : Char) : Bool :=
  !Text.isAsciiBlank c && c != '-' && c != '/' && c != '\ufeff'

theorem begins_nil : Begins [] := by
  rintro _ (rfl | rfl) <;> rfl

theorem begins_cons {c : Char} (h : isPlainStart c = true) (rest : List Char) :
    Begins (c :: rest) := by
  simp only [isPlainStart, Bool.and_eq_true, Bool.not_eq_true', bne_iff_ne] at h
  obtain ⟨⟨⟨hblank, hminus⟩, hslash⟩, hmark⟩ := h
  have houter : isOuterBlank c = false := by simp [isOuterBlank, hblank]
  rintro _ (rfl | rfl)
  · simp [skipGap, hminus, hslash, houter, hblank, hmark]
  · simp [skipGap, hminus, hslash, houter, hblank, hmark]

theorem begins_minus {c : Char} (h : c ≠ '-') (rest : List Char) : Begins ('-' :: c :: rest) := by
  have houter : isOuterBlank '-' = false := by decide
  have hblank : Text.isAsciiBlank '-' = false := by decide
  rintro _ (rfl | rfl)
  · simp [skipGap, h, houter]
  · simp [skipGap, h, houter, hblank]

theorem scanned_eq (cs : List Char) :
    scanned cs = match skipGap .between cs with
      | [] => []
      | c :: rest =>
        if (scanToken c rest).1 = .broken then [.broken]
        else (scanToken c rest).1 :: scanned (scanToken c rest).2 := by
  unfold scanned
  rw [Lexeme.scan]
  split
  · next h => simp [h]
  · next c rest h =>
    simp only [h]
    split
    · next hbroken => simp [hbroken]
    · rfl

theorem scanned_nil : scanned [] = [] := by
  rw [scanned_eq]
  rfl

/-- One token is taken off. -/
theorem scanned_cons {c : Char} {rest behind : List Char} {token : Token}
    (hbegins : Begins (c :: rest)) (htoken : scanToken c rest = (token, behind))
    (hsound : token ≠ .broken) : scanned (c :: rest) = token :: scanned behind := by
  rw [scanned_eq, hbegins _ (.inl rfl)]
  simp only [htoken]
  rw [if_neg hsound]

theorem scanned_blank {cs : List Char} (h : Begins cs) : scanned (' ' :: cs) = scanned cs := by
  have hskip : skipGap .between (' ' :: cs) = skipGap .between cs := by
    have hblank : isOuterBlank ' ' = true := by decide
    rw [h _ (.inl rfl)]
    simp [skipGap, hblank, h _ (.inr rfl)]
  rw [scanned_eq, hskip, ← scanned_eq]

/-! ### Names, texts and words -/

/-- The characters that end a word, a name or a text. -/
def breaks : List Char := [' ', ',', '(', ')', '.']

/-- A token ends in front of a text. -/
def IsBreak (cs : List Char) : Prop := ∀ c ∈ cs.head?, c ∈ breaks

theorem isBreak_nil : IsBreak [] := by simp [IsBreak]

theorem isBreak_cons {c : Char} (h : c ∈ breaks) (cs : List Char) : IsBreak (c :: cs) := by
  rintro _ ⟨⟩
  exact h

theorem IsBreak.head?_ne {cs : List Char} (h : IsBreak cs) {c : Char} (hc : c ∉ breaks) :
    cs.head? ≠ some c := fun hhead => hc (h c hhead)

theorem IsBreak.startsWith_eq_false {cs : List Char} (h : IsBreak cs) {p : Char → Bool}
    (hp : breaks.any p = false) : startsWith p cs = false := by
  rcases cs with _ | ⟨c, cs⟩
  · rfl
  · exact eq_false_of_ne_true (List.any_eq_false.1 hp c (h c rfl))

theorem takeWhile_of_startsWith {cs : List Char} {p : Char → Bool}
    (h : startsWith p cs = false) : cs.takeWhile p = [] := by
  rcases cs with _ | ⟨c, cs⟩
  · rfl
  · have hc : p c = false := h
    simp [hc]

theorem dropWhile_of_startsWith {cs : List Char} {p : Char → Bool}
    (h : startsWith p cs = false) : cs.dropWhile p = cs := by
  have := List.takeWhile_append_dropWhile (p := p) (l := cs)
  rwa [takeWhile_of_startsWith h, List.nil_append] at this

/-- What stands in quotes is one token, unless a further mark makes a pair with the closing one. -/
theorem scanned_enclose {mark : Char} {token : String → Token} (hplain : isPlainStart mark = true)
    (hmark : ∀ cs, scanToken mark cs = scanQuoted token mark cs) {content : List Char}
    (hsound : token (String.ofList content) ≠ .broken) {rest : List Char}
    (hrest : rest.head? ≠ some mark) :
    scanned (Text.Quoted.enclose mark content ++ rest) =
      token (String.ofList content) :: scanned rest := by
  have hbody := Text.Quoted.scanBody_double content hrest
  have hscan : scanToken mark (Text.Quoted.double mark content ++ mark :: rest) =
      (token (String.ofList content), rest) := by
    rw [hmark, scanQuoted, hbody]
  rw [Text.Quoted.enclose, List.cons_append, List.cons_append, List.append_assoc,
    List.singleton_append]
  exact scanned_cons (begins_cons hplain _) hscan hsound

/-- A name in double quotes is its content. -/
theorem scanned_name (content : List Char) {rest : List Char} (hrest : IsBreak rest) :
    scanned (Text.Quoted.enclose '"' content ++ rest) =
      .name (String.ofList content) :: scanned rest := by
  refine scanned_enclose (by decide) (fun cs => ?_) (by simp) (hrest.head?_ne (by decide))
  simp [scanToken]

/-- A text in single quotes is its content. -/
theorem scanned_text (content : List Char) {rest : List Char} (hrest : IsBreak rest) :
    scanned (Text.Quoted.enclose '\'' content ++ rest) =
      .text (String.ofList content) :: scanned rest := by
  refine scanned_enclose (by decide) (fun cs => ?_) (by simp) (hrest.head?_ne (by decide))
  simp [scanToken]

/-- A name whose quotes are left open. -/
theorem scanned_open_name (content : List Char) :
    scanned ('"' :: Text.Quoted.double '"' content) = [.broken] := by
  have hscan : (scanToken '"' (Text.Quoted.double '"' content)).1 = .broken := by
    simp [scanToken, scanQuoted, Text.Quoted.scanBody_open]
  rw [scanned_eq, begins_cons (by decide) _ _ (.inl rfl)]
  simp only [hscan, if_true]

theorem isWordChar_of_isIdentifierChar {c : Char} (h : isIdentifierChar c = true) :
    isWordChar c = true := by
  simp only [isIdentifierChar, Char.isAlphanum, Bool.or_eq_true] at h
  simp only [isWordChar, isWordStart, Decimal.isDigit_eq, Bool.or_eq_true]
  tauto

theorem toNat_of_start {c : Char} (h : isIdentifierStart c = true) :
    65 ≤ c.toNat ∧ c.toNat ≤ 122 := by
  have hranges : isIdentifierStart c =
      (decide (65 ≤ c.val ∧ c.val ≤ 90) || (decide (97 ≤ c.val) && decide (c.val ≤ 122)) ||
        c == '_') := rfl
  simp only [hranges, Bool.or_eq_true, Bool.and_eq_true, decide_eq_true_eq, beq_iff_eq,
    UInt32.le_iff_toNat_le] at h
  rcases h with (h | h) | rfl
  · exact ⟨h.1, Nat.le_trans h.2 (by decide)⟩
  · exact ⟨Nat.le_trans (by decide) h.1, h.2⟩
  · decide

theorem ne_of_start {c d : Char} (h : isIdentifierStart c = true)
    (hd : isIdentifierStart d = false) : c ≠ d := by
  rintro rfl
  rw [hd] at h
  cases h

theorem toNat_of_isDigit {c : Char} (h : isDigit c = true) : 48 ≤ c.toNat ∧ c.toNat ≤ 57 := by
  simp only [isDigit, Bool.and_eq_true, decide_eq_true_eq] at h
  exact h

theorem not_isDigit_of_start {c : Char} (h : isIdentifierStart c = true) : isDigit c = false := by
  have hlow := (toNat_of_start h).1
  refine Bool.eq_false_iff.2 fun hdigit => ?_
  have hhigh := (toNat_of_isDigit hdigit).2
  omega

theorem isPlainStart_of_toNat {c : Char} (hlow : 48 ≤ c.toNat) (hhigh : c.toNat ≤ 122) :
    isPlainStart c = true := by
  have hne {d : Char} (hd : d.toNat < 48 ∨ 122 < d.toNat) : c ≠ d := by
    rintro rfl
    omega
  have hblank : Text.isAsciiBlank c = false := by
    refine Bool.eq_false_iff.2 fun hblank => ?_
    simp only [Text.isAsciiBlank, Bool.or_eq_true, beq_iff_eq, Bool.and_eq_true,
      decide_eq_true_eq] at hblank
    rcases hblank with rfl | ⟨-, hle⟩
    · exact absurd hlow (by decide)
    · have : c.toNat ≤ 13 := hle
      omega
  have hminus : c ≠ '-' := hne (by decide)
  have hslash : c ≠ '/' := hne (by decide)
  have hmark : c ≠ '\ufeff' := hne (by decide)
  simp [isPlainStart, hblank, hminus, hslash, hmark]

/-- A bare identifier is its spelling. -/
theorem scanned_word {word : List Char} (hword : isIdentifier word = true) {rest : List Char}
    (hrest : IsBreak rest) :
    scanned (word ++ rest) = .word (String.ofList word) :: scanned rest := by
  rcases word with _ | ⟨c, cs⟩
  · cases hword
  obtain ⟨hstart, hchars⟩ := Bool.and_eq_true_iff.1 hword
  have hchars : ∀ d ∈ cs, isWordChar d = true := fun d hd =>
    isWordChar_of_isIdentifierChar (List.all_eq_true.1 hchars d hd)
  have hbehind : startsWith isWordChar rest = false := hrest.startsWith_eq_false (by decide)
  have hword : isWordStart c = true := by
    simp only [isIdentifierStart, Bool.or_eq_true] at hstart
    simp only [isWordStart, Bool.or_eq_true]
    exact .inl hstart
  have hquote : ¬ (c = '"' ∨ c = '\x60') :=
    not_or.2 ⟨ne_of_start hstart (by decide), ne_of_start hstart (by decide)⟩
  have hnumeral : ¬ (isDigit c || (c == '.' && startsWith isDigit (cs ++ rest))) = true := by
    have hpoint : c ≠ '.' := ne_of_start hstart (by decide)
    simp [not_isDigit_of_start hstart, hpoint]
  have hbytes : ¬ ((c = 'x' ∨ c = 'X') ∧ startsWith (· == '\'') (cs ++ rest) = true) := by
    rintro ⟨-, hquote⟩
    rcases cs with _ | ⟨d, ds⟩
    · rw [List.nil_append, hrest.startsWith_eq_false (by decide)] at hquote
      cases hquote
    · have hd : d = '\'' := by simpa [startsWith] using hquote
      exact absurd (hchars d List.mem_cons_self) (by rw [hd]; decide)
  -- the first character excludes every other kind of token
  have hscan : scanToken c (cs ++ rest) = (.word (String.ofList (c :: cs)), rest) := by
    unfold scanToken
    rw [if_neg hquote, if_neg (ne_of_start hstart (by decide)),
      if_neg (ne_of_start hstart (by decide)), if_neg hnumeral, if_neg hbytes, if_pos hword,
      List.takeWhile_append_of_pos hchars, List.dropWhile_append_of_pos hchars,
      takeWhile_of_startsWith hbehind, dropWhile_of_startsWith hbehind, List.append_nil]
  obtain ⟨hlow, hhigh⟩ := toNat_of_start hstart
  exact scanned_cons (begins_cons (isPlainStart_of_toNat (by omega) hhigh) _) hscan (by simp)

/-! ### Marks -/

theorem scanned_comma (rest : List Char) : scanned (',' :: rest) = .mark "," :: scanned rest :=
  scanned_cons (begins_cons (by decide) rest) rfl (by simp)

theorem scanned_open (rest : List Char) : scanned ('(' :: rest) = .mark "(" :: scanned rest :=
  scanned_cons (begins_cons (by decide) rest) rfl (by simp)

theorem scanned_close (rest : List Char) : scanned (')' :: rest) = .mark ")" :: scanned rest :=
  scanned_cons (begins_cons (by decide) rest) rfl (by simp)

/-- An equality sign in front of a blank. -/
theorem scanned_equals (rest : List Char) :
    scanned ('=' :: ' ' :: rest) = .mark "=" :: scanned (' ' :: rest) :=
  scanned_cons (begins_cons (by decide) _) rfl (by simp)

/-- A point in front of a quoted name. -/
theorem scanned_point (rest : List Char) :
    scanned ('.' :: '"' :: rest) = .mark "." :: scanned ('"' :: rest) :=
  scanned_cons (begins_cons (by decide) _) rfl (by simp)

theorem ne_of_isDigit {c d : Char} (h : isDigit c = true) (hd : isDigit d = false) : c ≠ d := by
  rintro rfl
  rw [hd] at h
  cases h

/-- A minus in front of a digit. -/
theorem scanned_minus {c : Char} (hc : isDigit c = true) (rest : List Char) :
    scanned ('-' :: c :: rest) = .mark "-" :: scanned (c :: rest) := by
  have hgreater : ('>' == c) = false := beq_eq_false_iff_ne.2 (ne_of_isDigit hc (by decide)).symm
  have hlength : "-".length - 1 = 0 := by decide
  have hscan : scanToken '-' (c :: rest) = (.mark "-", c :: rest) := by
    simp [scanToken, scanMark, marks, List.find?, List.isPrefixOf, hgreater, startsWith, isDigit,
      isWordStart, hlength]
  exact scanned_cons (begins_minus (ne_of_isDigit hc (by decide)) rest) hscan (by simp)

/-! ### Numerals -/

theorem pastDigits_append {digits rest : List Char} (hdigits : digits.all isDigit = true)
    (hrest : startsWith isDigitOrSeparator rest = false) : pastDigits (digits ++ rest) = rest := by
  have hall : ∀ c ∈ digits, isDigitOrSeparator c = true := fun c hc => by
    simp [isDigitOrSeparator, List.all_eq_true.1 hdigits c hc]
  rw [pastDigits, List.dropWhile_append_of_pos hall, dropWhile_of_startsWith hrest]

section Parts

variable {spelling : Spelling} (rest : List Char)

theorem pastExponent_powerText {power : Option (Bool × List Char)} (hne : ∀ p ∈ power, p.2 ≠ [])
    (hdigits : ∀ p ∈ power, p.2.all isDigit = true) :
    pastExponent (Spelling.powerText power ++ ' ' :: rest) = ' ' :: rest := by
  rcases power with _ | ⟨negative, digits⟩
  · rfl
  have hdigits : digits.all isDigit = true := hdigits _ rfl
  have hpast := pastDigits_append hdigits
    (rfl : startsWith isDigitOrSeparator (' ' :: rest) = false)
  rcases digits with _ | ⟨c, cs⟩
  · exact absurd rfl (hne _ rfl)
  have hc : isDigit c = true := (Bool.and_eq_true_iff.1 hdigits).1
  simp only [Spelling.powerText, List.cons_append, List.append_assoc, pastExponent,
    Spelling.takeSign_signed hc, true_or, true_and]
  rw [if_pos (by simpa [startsWith] using hc)]
  exact hpast

theorem startsWith_powerText (power : Option (Bool × List Char)) :
    startsWith isDigitOrSeparator (Spelling.powerText power ++ ' ' :: rest) = false := by
  rcases power with _ | power <;> rfl

theorem startsWith_fractionText (fraction : Option (List Char)) (power) :
    startsWith isDigitOrSeparator
      (Spelling.fractionText fraction ++ (Spelling.powerText power ++ ' ' :: rest)) = false := by
  rcases fraction with _ | digits
  · exact startsWith_powerText rest power
  · rfl

theorem pastFraction_fractionText {fraction : Option (List Char)} (power)
    (hdigits : ∀ digits ∈ fraction, digits.all isDigit = true) :
    pastFraction (Spelling.fractionText fraction ++ (Spelling.powerText power ++ ' ' :: rest)) =
      Spelling.powerText power ++ ' ' :: rest := by
  rcases fraction with _ | digits
  · rcases power with _ | power <;> rfl
  · exact pastDigits_append (hdigits _ rfl) (startsWith_powerText rest power)

theorem pastDecimal_text (h : spelling.Sound) {c : Char} {cs : List Char}
    (hwhole : spelling.whole = c :: cs) :
    pastDecimal c (cs ++ (Spelling.fractionText spelling.fraction ++
      (Spelling.powerText spelling.power ++ ' ' :: rest))) = ' ' :: rest := by
  have hdigits := h.whole_digits
  rw [hwhole, List.all_cons, Bool.and_eq_true] at hdigits
  have hpoint : c ≠ '.' := by
    rintro rfl
    exact absurd hdigits.1 (by decide)
  rw [pastDecimal, if_neg hpoint, pastDigits_append hdigits.2 (startsWith_fractionText rest _ _),
    pastFraction_fractionText rest _ h.fraction_digits,
    pastExponent_powerText rest h.power_ne h.power_digits]

/-- Only an `x` behind the first character makes a numeral hexadecimal. -/
theorem pastNumeral_eq (first : Char) {behind : List Char}
    (h : startsWith (fun c => c == 'x' || c == 'X') behind = false) :
    pastNumeral first behind = pastDecimal first behind := by
  unfold pastNumeral
  split
  · next x digit digits =>
    have hx : (x == 'x' || x == 'X') = false := h
    rw [Bool.or_eq_false_iff, beq_eq_false_iff_ne, beq_eq_false_iff_ne] at hx
    rw [if_neg (by simp [hx])]
  · rfl

theorem pastNumeral_text (h : spelling.Sound) {c : Char} {cs : List Char}
    (hwhole : spelling.whole = c :: cs) :
    pastNumeral c (cs ++ (Spelling.fractionText spelling.fraction ++
      (Spelling.powerText spelling.power ++ ' ' :: rest))) = ' ' :: rest := by
  rw [pastNumeral_eq, pastDecimal_text rest h hwhole]
  have hdigits := h.whole_digits
  rw [hwhole, List.all_cons, Bool.and_eq_true] at hdigits
  rcases cs with _ | ⟨d, ds⟩
  · rcases spelling.fraction with _ | digits
    · rcases spelling.power with _ | power <;> rfl
    · rfl
  · have hd : isDigit d = true := (Bool.and_eq_true_iff.1 hdigits.2).1
    refine Bool.eq_false_iff.2 fun hx => ?_
    have hx : d = 'x' ∨ d = 'X' := by simpa [startsWith] using hx
    rcases hx with rfl | rfl
    · exact absurd hd (by decide)
    · exact absurd hd (by decide)

end Parts

theorem scanToken_digit {c : Char} (h : isDigit c = true) (rest : List Char) :
    scanToken c rest = scanNumeral c rest := by
  have hquote : ¬ (c = '"' ∨ c = '\x60') :=
    not_or.2 ⟨ne_of_isDigit h (by decide), ne_of_isDigit h (by decide)⟩
  unfold scanToken
  rw [if_neg hquote, if_neg (ne_of_isDigit h (by decide)), if_neg (ne_of_isDigit h (by decide)),
    if_pos (by rw [h]; rfl)]

/-- A numeral in front of a blank is what its spelling says. -/
theorem scanned_numeral {spelling : Spelling} (h : spelling.Sound) (rest : List Char) :
    scanned (spelling.text ++ ' ' :: rest) =
      .numeral spelling.numeral :: scanned (' ' :: rest) := by
  have hread := Spelling.unsigned?_text h false
  rw [spelling.positive_numeral] at hread
  rcases hwhole : spelling.whole with _ | ⟨c, cs⟩
  · exact absurd hwhole h.whole_ne
  have hc : isDigit c = true := by
    have hdigits := h.whole_digits
    rw [hwhole, List.all_cons, Bool.and_eq_true] at hdigits
    exact hdigits.1
  have hpast := pastNumeral_text rest h hwhole
  have htext : spelling.text = c :: (cs ++ (Spelling.fractionText spelling.fraction ++
      Spelling.powerText spelling.power)) := by rw [Spelling.text, hwhole, List.cons_append]
  have hsplit : cs ++ (Spelling.fractionText spelling.fraction ++
      (Spelling.powerText spelling.power ++ ' ' :: rest)) =
      (cs ++ (Spelling.fractionText spelling.fraction ++ Spelling.powerText spelling.power)) ++
        ' ' :: rest := by simp only [List.append_assoc]
  rw [hsplit] at hpast
  rw [htext] at hread ⊢
  -- what the scanner passes over is what the reader of numerals is given
  generalize cs ++ (Spelling.fractionText spelling.fraction ++
    Spelling.powerText spelling.power) = tail at *
  have hscan : scanNumeral c (tail ++ ' ' :: rest) = (.numeral spelling.numeral, ' ' :: rest) := by
    have hend : startsWith isWordChar (' ' :: rest) = false := rfl
    have hwritten : (tail ++ ' ' :: rest).take
        ((tail ++ ' ' :: rest).length - (' ' :: rest).length) = tail := by
      rw [List.length_append, Nat.add_sub_cancel, List.take_left]
    unfold scanNumeral
    simp only [hpast, hend, hwritten, hread]
    rfl
  rw [List.cons_append]
  rw [← scanToken_digit hc] at hscan
  obtain ⟨hlow, hhigh⟩ := toNat_of_isDigit hc
  exact scanned_cons (begins_cons (isPlainStart_of_toNat hlow (by omega)) _) hscan (by simp)

end Crosstab.Sql

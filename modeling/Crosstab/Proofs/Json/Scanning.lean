import Crosstab.Proofs.Json.Numerals
import Crosstab.Proofs.Json.Strings

/-!
# Scanning written JSON

What the pieces of written JSON are scanned as, whatever stands behind them: a quoted string as the
text that was quoted, a numeral as what it says, and a mark as itself. Blanks between the
pieces are skipped, so both written forms spell the same tokens.

    pieces ──written──▶ characters ++ rest ──Token.scan──▶ tokens, and those of the rest
-/

namespace Crosstab.Json

open Decimal (Numeral isDigit)

/-! ### Tokens -/

theorem scan_of_separators {cs : List Char} (h : cs.dropWhile isSeparator = []) :
    Token.scan cs = some [] := by
  rw [Token.scan]
  split
  · rfl
  · next hcons => cases h.symm.trans hcons

theorem scan_of_dropWhile {c : Char} {cs rest : List Char}
    (h : cs.dropWhile isSeparator = c :: rest) :
    Token.scan cs = (Token.scanOne (c :: rest)).bind fun r =>
      (Token.scan r.2).map (r.1 :: ·) := by
  rw [Token.scan]
  split
  · next hnil => cases h.symm.trans hnil
  · next hcons =>
    cases h.symm.trans hcons
    split
    · next hnone => rw [hnone, Option.bind_none]
    · next hsome => rw [hsome, Option.bind_some]

theorem scan_nil : Token.scan [] = some [] := scan_of_separators rfl

theorem scan_separator {c : Char} (h : isSeparator c = true) (cs : List Char) :
    Token.scan (c :: cs) = Token.scan cs := by
  have hskip : (c :: cs).dropWhile isSeparator = cs.dropWhile isSeparator :=
    List.dropWhile_cons_of_pos h
  rcases hrest : cs.dropWhile isSeparator with _ | ⟨d, ds⟩
  · rw [scan_of_separators (hskip.trans hrest), scan_of_separators hrest]
  · rw [scan_of_dropWhile (hskip.trans hrest), scan_of_dropWhile hrest]

theorem scan_separators {blanks : List Char} (h : ∀ c ∈ blanks, isSeparator c = true)
    (cs : List Char) : Token.scan (blanks ++ cs) = Token.scan cs := by
  induction blanks with
  | nil => rfl
  | cons c blanks ih =>
    obtain ⟨hc, hblanks⟩ := List.forall_mem_cons.1 h
    rw [List.cons_append, scan_separator hc, ih hblanks]

/-- A token that starts a text is the first of its tokens. -/
theorem scan_of_scanOne {c : Char} {cs behind : List Char} {token : Token}
    (hskip : isSeparator c = false) (h : Token.scanOne (c :: cs) = some (token, behind)) :
    Token.scan (c :: cs) = (Token.scan behind).map (token :: ·) := by
  rw [scan_of_dropWhile (List.dropWhile_cons_of_neg (by simp [hskip])), h, Option.bind_some]

/-- The characters spell tokens, whatever stands behind them, as long as it does not go on with a
numeral. -/
def Spells (cs : List Char) (tokens : List Token) : Prop :=
  ∀ rest, EndsNumeral rest → Token.scan (cs ++ rest) = (Token.scan rest).map (tokens ++ ·)

theorem Spells.scan {cs : List Char} {tokens : List Token} (h : Spells cs tokens) :
    Token.scan cs = some tokens := by
  have hscan := h [] endsNumeral_nil
  rwa [List.append_nil, scan_nil, Option.map_some, List.append_nil] at hscan

/-- Characters that cannot go on with a numeral, whatever stands behind them. -/
def Apart (cs : List Char) : Prop := ∀ rest, EndsNumeral (cs ++ rest)

theorem apart_cons {c : Char} (h : isDigit c = false ∧ c ≠ '.' ∧ c ≠ 'e' ∧ c ≠ 'E')
    (cs : List Char) : Apart (c :: cs) :=
  fun rest => endsNumeral_cons h (cs ++ rest)

theorem Spells.append {cs ds : List Char} {tokens others : List Token} (h : Spells cs tokens)
    (h' : Spells ds others) (hapart : Apart ds) : Spells (cs ++ ds) (tokens ++ others) := by
  intro rest hrest
  rw [List.append_assoc, h _ (hapart rest), h' rest hrest, Option.map_map]
  congr 1
  funext tail
  exact (List.append_assoc tokens others tail).symm

theorem spells_token {c : Char} {cs : List Char} {token : Token} (hskip : isSeparator c = false)
    (h : ∀ rest, EndsNumeral rest → Token.scanOne (c :: cs ++ rest) = some (token, rest)) :
    Spells (c :: cs) [token] :=
  fun rest hrest => scan_of_scanOne hskip (h rest hrest)

/-- A mark in front of characters is a token in front of theirs. -/
theorem Spells.behind {c : Char} {cs : List Char} {token : Token} {tokens : List Token}
    (h : Spells cs tokens) (hskip : isSeparator c = false)
    (hmark : ∀ rest, Token.scanOne (c :: rest) = some (token, rest)) :
    Spells (c :: cs) (token :: tokens) := by
  intro rest hrest
  rw [List.cons_append, scan_of_scanOne hskip (hmark _), h rest hrest, Option.map_map]
  rfl

/-- Separators in front of characters mean nothing. -/
theorem Spells.separated {blanks cs : List Char} {tokens : List Token} (h : Spells cs tokens)
    (hblanks : ∀ c ∈ blanks, isSeparator c = true) : Spells (blanks ++ cs) tokens := by
  intro rest hrest
  rw [List.append_assoc, scan_separators hblanks, h rest hrest]

theorem endsNumeral_separated {blanks rest : List Char}
    (hblanks : ∀ c ∈ blanks, isSeparator c = true) (hrest : EndsNumeral rest) :
    EndsNumeral (blanks ++ rest) := by
  rcases blanks with _ | ⟨c, blanks⟩
  · exact hrest
  · refine endsNumeral_cons ?_ _
    have hc := hblanks c List.mem_cons_self
    simp only [isSeparator, Bool.or_eq_true, beq_iff_eq] at hc
    rcases hc with ((rfl | rfl) | rfl) | rfl <;> decide

/-- Separators behind characters mean nothing either. -/
theorem Spells.followed {blanks cs : List Char} {tokens : List Token} (h : Spells cs tokens)
    (hblanks : ∀ c ∈ blanks, isSeparator c = true) : Spells (cs ++ blanks) tokens := by
  intro rest hrest
  rw [List.append_assoc, h _ (endsNumeral_separated hblanks hrest), scan_separators hblanks]

theorem spells_nil : Spells [] [] := by
  intro rest _
  simp

theorem spells_string {cs : List Char} {text : Option String} (h : WritesString cs text) :
    Spells cs [.string text] := by
  obtain ⟨hunits⟩ := h
  refine spells_token (by decide) fun rest _ => ?_
  rw [List.cons_append, List.append_assoc, List.singleton_append, Token.scanOne,
    hunits.scanString_eq, Option.map_some]

theorem spells_quoteString (s : String) : Spells (quoteString s) [.string (some s)] :=
  spells_string (writesString_quoteString s)

theorem scanOne_of_digit {c : Char} (hc : c = '-' ∨ isDigit c = true) (cs : List Char) :
    Token.scanOne (c :: cs) = (scanNumeral (c :: cs)).map fun r => (.numeral r.1, r.2) := by
  have hne : ∀ d, d ≠ '-' → isDigit d = false → c ≠ d := by
    rintro d hminus hdigit rfl
    rcases hc with rfl | hc
    · exact hminus rfl
    · rw [hc] at hdigit
      cases hdigit
  rw [Token.scanOne.eq_def]
  split <;> first
    | rfl
    | (next heq => exact absurd (List.cons.inj heq).1 (hne _ (by decide) (by decide)))
    | (next heq => cases heq)

theorem isSeparator_of_digit {c : Char} (hc : c = '-' ∨ isDigit c = true) :
    isSeparator c = false := by
  refine Bool.eq_false_iff.2 fun hseparator => ?_
  simp only [isSeparator, Bool.or_eq_true, beq_iff_eq] at hseparator
  rcases hseparator with ((rfl | rfl) | rfl) | rfl <;> exact absurd hc (by decide)

theorem spells_numeral {cs : List Char} {numeral : Numeral} (h : WritesNumeral cs numeral) :
    Spells cs [.numeral numeral] := by
  obtain ⟨c, ds, rfl, hc⟩ := h.exists_cons
  refine spells_token (isSeparator_of_digit hc) fun rest hrest => ?_
  rw [List.cons_append, scanOne_of_digit hc, ← List.cons_append, h.scanNumeral_eq hrest]
  rfl

end Crosstab.Json

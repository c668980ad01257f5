import Crosstab.Proofs.Decimal.Nearest
import Crosstab.Proofs.Discovery
import Crosstab.Proofs.Engine.Discovered
import Crosstab.Proofs.Sql.Template

/-!
# What a literal says

A literal is read by three rules: digits alone, perhaps behind a minus, are that integer; a numeral
with a point or an exponent is the real that is nearest to it; and what stands between single quotes
is text, with every pair of quotes inside undone. So read, the literal of a value says the value,
and nothing else.

    cell ──toJson──▶ JSON ──Value.ofCell?──▶ value ──literal──▶ text
    cell ◀──────────────────── Value.cell ── value ◀──Denotes── text

What says different things is different: no two values of a set share a literal, and no two numbers
of it share a label.
-/

namespace Crosstab

open Decimal (Numeral Spelling)
open Engine (Cell)
open Text (Quoted.scan)

/-! ### Numerals as quotients -/

namespace Decimal.Numeral

/-- The quotient that a numeral denotes. -/
def value (numeral : Numeral) : ℚ :=
  if numeral.negative then -(numeral.coefficient * 10 ^ numeral.exponent)
  else numeral.coefficient * 10 ^ numeral.exponent

theorem ratio_magnitude (numeral : Numeral) :
    (numeral.magnitude.ratio.1 : ℚ) / numeral.magnitude.ratio.2 =
      numeral.coefficient * 10 ^ numeral.exponent := by
  obtain ⟨negative, coefficient, exponent, integral⟩ := numeral
  unfold magnitude Scientific.ratio
  dsimp only
  split
  · next hwhole =>
    obtain ⟨power, rfl⟩ := Int.eq_ofNat_of_zero_le hwhole
    simp
  · next hfraction =>
    obtain ⟨places, rfl⟩ := Int.eq_negSucc_of_lt_zero (Int.not_le.1 hfraction)
    rw [zpow_negSucc]
    simp [div_eq_mul_inv]

/-- A numeral that is rounded to a finite magnitude has the number of that magnitude nearest to it,
whatever sign the two have. -/
theorem isNearest_of_roundsTo {numeral : Numeral} {rank : Nat}
    (hfinite : rank < Binary64.infiniteRank)
    (h : Binary64.RoundsTo rank numeral.magnitude.ratio.1 numeral.magnitude.ratio.2)
    (negative : Bool) :
    (Binary64.ofRank negative rank).IsNearest { numeral with negative }.value := by
  have hnearest :=
    Binary64.isNearest_of_roundsTo hfinite numeral.magnitude.ratio_pos h negative
  rwa [ratio_magnitude] at hnearest

/-- The numeral that a text is, perhaps behind a minus. -/
def signed? : List Char → Option Numeral
  | '-' :: cs => unsigned? true cs
  | cs => unsigned? false cs

end Decimal.Numeral

namespace Sql

/-! ### Reading literals -/

/-- What a literal says. -/
inductive Denotes (cs : List Char) : Value → Prop where
  | integer {numeral : Numeral} {n : Int64} (hread : Numeral.signed? cs = some numeral)
      (hintegral : numeral.integral = true) (hn : n.toInt = numeral.toInt) :
      Denotes cs (.integer n)
  | real {numeral : Numeral} {x : Binary64} (hread : Numeral.signed? cs = some numeral)
      (hintegral : numeral.integral = false) (hx : x.IsNearest numeral.value) :
      Denotes cs (.real x)
  | text {content : List Char} (hread : Quoted.scan '\'' cs = some (content, [])) :
      Denotes cs (.text (String.ofList content))

theorem signed?_signedText {spelling : Spelling} (h : spelling.Sound) (negative : Bool) :
    Numeral.signed? (signedText negative spelling) =
      some { spelling.numeral with negative } := by
  have hread := Spelling.unsigned?_text h
  cases negative with
  | true => exact hread true
  | false =>
    obtain ⟨c, cs, htext, hc⟩ := text_eq_cons h
    have hminus : c ≠ '-' := ne_of_isDigit hc (by decide)
    show Numeral.signed? spelling.text = _
    rw [← hread false, htext]
    unfold Numeral.signed?
    split
    · next heq =>
      obtain ⟨rfl, -⟩ := List.cons.inj heq
      exact absurd rfl hminus
    · rfl

variable {cs : List Char} {numeral : Numeral} {read : Value}

theorem denotes_integer_iff (hread : Numeral.signed? cs = some numeral)
    (hquote : Quoted.scan '\'' cs = none) (hintegral : numeral.integral = true) {n : Int64}
    (hn : n.toInt = numeral.toInt) :
    Denotes cs read ↔ read.same (.integer n) = true := by
  constructor
  · rintro (⟨hother, -, hm⟩ | ⟨hother, hreal, -⟩ | ⟨htext⟩)
    · obtain rfl := Option.some.inj (hread.symm.trans hother)
      exact beq_iff_eq.2 (Int64.toInt_inj.1 (hm.trans hn.symm))
    · obtain rfl := Option.some.inj (hread.symm.trans hother)
      rw [hintegral] at hreal
      cases hreal
    · rw [hquote] at htext
      cases htext
  · intro hsame
    cases read with
    | integer m =>
      obtain rfl : m = n := beq_iff_eq.1 hsame
      exact .integer hread hintegral hn
    | _ => cases hsame

theorem denotes_real_iff (hread : Numeral.signed? cs = some numeral)
    (hquote : Quoted.scan '\'' cs = none) (hintegral : numeral.integral = false) {x : Binary64}
    (hx : x.IsNearest numeral.value) : Denotes cs read ↔ read.same (.real x) = true := by
  constructor
  · rintro (⟨hother, hinteger, -⟩ | ⟨hother, -, hy⟩ | ⟨htext⟩)
    · obtain rfl := Option.some.inj (hread.symm.trans hother)
      rw [hintegral] at hinteger
      cases hinteger
    · obtain rfl := Option.some.inj (hread.symm.trans hother)
      exact (Binary64.same_iff_value hy.number hx.number).2 (hy.value_unique hx)
    · rw [hquote] at htext
      cases htext
  · intro hsame
    cases read with
    | real y => exact .real hread hintegral (hx.congr (Value.same_symm hsame))
    | _ => cases hsame

theorem denotes_text_iff {content : List Char} (hread : Quoted.scan '\'' cs = some (content, []))
    (hnumeral : Numeral.signed? cs = none) :
    Denotes cs read ↔ read.same (.text (String.ofList content)) = true := by
  constructor
  · rintro (⟨hother, -, -⟩ | ⟨hother, -, -⟩ | ⟨htext⟩)
    · rw [hnumeral] at hother
      cases hother
    · rw [hnumeral] at hother
      cases hother
    · obtain ⟨rfl, -⟩ := Prod.mk.inj (Option.some.inj (hread.symm.trans htext))
      exact beq_self_eq_true _
  · intro hsame
    cases read with
    | text s =>
      obtain rfl : s = String.ofList content := beq_iff_eq.1 hsame
      exact .text hread
    | _ => cases hsame

theorem scan_signedText {spelling : Spelling} (h : spelling.Sound) (negative : Bool) :
    Quoted.scan '\'' (signedText negative spelling) = none := by
  cases negative with
  | true => rfl
  | false =>
    obtain ⟨c, cs, htext, hc⟩ := text_eq_cons h
    show Quoted.scan '\'' spelling.text = none
    rw [htext]
    exact if_neg (ne_of_isDigit hc (by decide))

/-- The literal of a value other than NaN and the infinities says this value, and it says nothing
else: what is read off it is of the same type and equal. -/
theorem denotes_literal_iff {value : Value} (hfinite : ∀ x, value = .real x → x.isFinite = true) :
    Denotes (literal value).toList read ↔ read.same value = true := by
  cases value with
  | integer n =>
    have htext : (literal (.integer n)).toList =
        signedText (decide (n.toInt < 0)) (wholeSpelling n.toInt.natAbs) := toList_toString n.toInt
    have hsound := sound_wholeSpelling n.toInt.natAbs
    rw [htext]
    refine denotes_integer_iff (signed?_signedText hsound _) (scan_signedText hsound _) rfl ?_
    rw [numeral_wholeSpelling, toInt_signed]
  | real x =>
    have hx := hfinite x rfl
    have hrank : x.rank < Binary64.infiniteRank := of_decide_eq_true hx
    have hlayout : Value.realLayout.exponentSign = "" := rfl
    obtain ⟨spelling, hsound, htext, hintegral, hrounds, -⟩ :=
      Decimal.exists_spelling_writeMagnitude hlayout hrank
    have hliteral : (literal (.real x)).toList = signedText x.isNegative spelling := by
      rw [toList_literal_real hx, signedText, htext]
    have hnearest : x.IsNearest { spelling.numeral with negative := x.isNegative }.value := by
      have hrank := Numeral.isNearest_of_roundsTo hrank hrounds x.isNegative
      rwa [Binary64.ofRank_rank] at hrank
    rw [hliteral]
    exact denotes_real_iff (signed?_signedText hsound x.isNegative) (scan_signedText hsound _)
      hintegral hnearest
  | text s =>
    have hliteral : (literal (.text s)).toList = Text.Quoted.enclose '\'' s.toList :=
      toList_quoteText s
    have hread : Quoted.scan '\'' (Text.Quoted.enclose '\'' s.toList) = some (s.toList, []) :=
      Text.Quoted.scanBody_double s.toList (by simp)
    rw [hliteral, denotes_text_iff hread rfl, String.ofList_toList]

theorem literal_ne {value other : Value} (hvalue : ∀ x, value = .real x → x.isFinite = true)
    (hother : ∀ x, other = .real x → x.isFinite = true) (h : value.same other = false) :
    literal value ≠ literal other := by
  intro heq
  have hself : Denotes (literal value).toList value :=
    (denotes_literal_iff hvalue).2 (Value.same_refl (Value.isNaN_of_isFinite hvalue))
  rw [heq, denotes_literal_iff hother, h] at hself
  cases hself

end Sql

/-! ### Discovered values -/

/-- The value is a number. -/
def Value.isNumber : Value → Bool
  | .text _ => false
  | _ => true

theorem Sql.literal_of_isNumber {value : Value} (h : value.isNumber = true) :
    literal value = value.label := by
  cases value <;> first | rfl | cases h

/-- The cell is an integer, a finite real or text in UTF-8. -/
def Engine.Cell.isPlain : Cell → Bool
  | .integer _ => true
  | .real x => x.isFinite
  | .text bytes => (String.fromUTF8? bytes).isSome
  | _ => false

/-- A plain cell is shown as JSON, and as a value there. -/
theorem exists_value_of_isPlain {cell : Cell} (h : cell.isPlain = true) (name : String) :
    ∃ json value, cell.toJson name = .ok json ∧ json.image? = some value ∧ value.cell = cell := by
  obtain ⟨json, hjson, hshown⟩ :
      ∃ json, cell.toJson name = .ok json ∧ cell.showsNull = false := by
    cases cell with
    | integer n => exact ⟨_, rfl, rfl⟩
    | real x =>
      refine ⟨_, rfl, ?_⟩
      rw [Cell.showsNull, show x.isFinite = true from h]
      rfl
    | text bytes =>
      obtain ⟨s, hs⟩ := Option.isSome_iff_exists.1 h
      exact ⟨.string s, by rw [Cell.toJson, hs], rfl⟩
    | _ => cases h
  rcases cell_of_toJson hjson with ⟨hnull, -⟩ | ⟨-, value, himage, hcell⟩
  · rw [hshown] at hnull
    cases hnull
  · exact ⟨json, value, hjson, himage, hcell⟩

theorem exists_mapM_toJson {cells : List Cell} (h : ∀ cell ∈ cells, cell.isPlain = true)
    (name : String) : ∃ jsons, cells.mapM (Cell.toJson name) = .ok jsons ∧
      jsons.findSome? Json.foreignKind? = none := by
  induction cells with
  | nil => exact ⟨[], rfl, rfl⟩
  | cons cell cells ih =>
    obtain ⟨hcell, hcells⟩ := List.forall_mem_cons.1 h
    obtain ⟨json, value, hjson, himage, -⟩ := exists_value_of_isPlain hcell name
    obtain ⟨jsons, hjsons, hforeign⟩ := ih hcells
    refine ⟨json :: jsons, ?_, ?_⟩
    · rw [List.mapM_cons, hjson, hjsons]
      rfl
    · rw [List.findSome?_cons, Json.foreignKind?_of_image? himage]
      exact hforeign

/-- Integers, finite reals and texts are discovered as what they are, and the literal of a value so
discovered, which is one for all dialects, says this cell alone. So no two values of a set that is
discovered in such cells share a literal, and no two numbers a label. -/
theorem literals_of_cells {cells : List Cell} (h : ∀ cell ∈ cells, cell.isPlain = true)
    (name column : String) :
    (∀ cell ∈ cells, ∃ value, (cell.toJson name).bind (Value.ofCell? column) = .ok (some value) ∧
      value.cell = cell ∧
      ∀ read, Sql.Denotes (Sql.literal value).toList read ↔ read.same value = true) ∧
    ∃ jsons set, cells.mapM (Cell.toJson name) = .ok jsons ∧
      ValueSet.empty.addCells column jsons = .ok set ∧
      set.values.Pairwise (fun value other => Sql.literal value ≠ Sql.literal other) ∧
      set.values.Pairwise fun value other =>
        value.isNumber = true → other.isNumber = true → value.label ≠ other.label := by
  constructor
  · intro cell hcell
    obtain ⟨json, value, hjson, himage, hvalue⟩ := exists_value_of_isPlain (h cell hcell) name
    have hfinite : ∀ x, value = .real x → x.isFinite = true := by
      rintro x rfl
      exact Json.isFinite_of_image? himage
    refine ⟨value, ?_, hvalue, fun read => Sql.denotes_literal_iff hfinite⟩
    rw [hjson]
    show Value.ofCell? column json = _
    rw [Value.ofCell?_eq, Json.foreignKind?_of_image? himage, himage]
  · obtain ⟨jsons, hjsons, hforeign⟩ := exists_mapM_toJson h name
    obtain ⟨set, hset, htook⟩ :=
      ValueSet.exists_addCells_eq_ok column hforeign ValueSet.took_empty
    have hfinite : ∀ value ∈ set.values, ∀ x, value = .real x → x.isFinite = true := by
      intro value hvalue
      rw [htook.values_eq] at hvalue
      exact Json.isFinite_of_mem_images (Value.firsts_subset hvalue)
    have hdistinct : set.values.Pairwise fun value other =>
        Sql.literal value ≠ Sql.literal other := by
      refine List.Pairwise.imp_of_mem (fun hvalue hother => ?_)
        (htook.values_eq ▸ Value.pairwise_firsts _)
      exact Sql.literal_ne (hfinite _ hvalue) (hfinite _ hother)
    refine ⟨jsons, set, hjsons, hset, hdistinct, hdistinct.imp fun hne hvalue hother => ?_⟩
    rwa [← Sql.literal_of_isNumber hvalue, ← Sql.literal_of_isNumber hother]

/-- The least integer, the least real and its negative, the two zeros, a real that is whole, and a
text that spells it, with a quote. -/
def extremeCells : List Cell :=
  [.integer Int64.minValue, .real ⟨1⟩, .real ⟨0x8000000000000001⟩, .real ⟨0⟩,
    .real ⟨0x8000000000000000⟩, .real ⟨0x4340000000000000⟩, .ofText "'9007199254740992.0"]

theorem literals_of_extremeCells : (∀ cell ∈ extremeCells, cell.isPlain = true) ∧
    (∃ value : Value, value.cell = .real ⟨1⟩ ∧
      ∀ read, Sql.Denotes (Sql.literal value).toList read ↔ read.same value = true) ∧
    ∃ jsons set, extremeCells.mapM (Cell.toJson "k") = .ok jsons ∧
      ValueSet.empty.addCells "k" jsons = .ok set ∧
      set.values.Pairwise fun value other => Sql.literal value ≠ Sql.literal other := by
  have hplain : ∀ cell ∈ extremeCells, cell.isPlain = true := by decide
  have hleast : .real ⟨1⟩ ∈ extremeCells := by decide
  obtain ⟨hcells, jsons, set, hjsons, hset, hdistinct, -⟩ := literals_of_cells hplain "k" "k"
  obtain ⟨value, -, hvalue, hsays⟩ := hcells _ hleast
  exact ⟨hplain, ⟨value, hvalue, hsays⟩, jsons, set, hjsons, hset, hdistinct⟩

end Crosstab

import Crosstab.Proofs.Json.Printing

/-!
# JSON values read back

Every value is what is read from either of its written forms. Numbers carry all of the weight: an
integer is written in digits alone and read as that integer, a real is written with a fraction or
with a power of ten, so it is read as a real, and as the one that it was.

    value ──compact, pretty──▶ text ──Tree.parse?──▶ tree ──value?──▶ value
-/

namespace Crosstab.Json

open Decimal (Numeral)

/-! ### Numbers -/

theorem toInt_numeralOf (n : Int) : (numeralOf n).toInt = n := by
  rw [Numeral.toInt, numeralOf]
  by_cases h : n < 0
  · simp only [h, decide_true, if_true]
    omega
  · simp only [h, decide_false, Bool.false_eq_true, if_false]
    omega

theorem numberOf?_numeralOf {n : Int} (lower : -2 ^ 63 ≤ n) (upper : n < 2 ^ 64) :
    Tree.numberOf? (numeralOf n) = some (.integer n lower upper) := by
  have hzero : ¬((numeralOf n).negative = true ∧ (numeralOf n).coefficient = 0) := by
    simp only [numeralOf, decide_eq_true_eq]
    omega
  have hinteger : (numeralOf n).integral = true ∧
      ¬((numeralOf n).negative = true ∧ (numeralOf n).coefficient = 0) ∧
      -2 ^ 63 ≤ (numeralOf n).toInt ∧ (numeralOf n).toInt < 2 ^ 64 := by
    rw [toInt_numeralOf]
    exact ⟨rfl, hzero, lower, upper⟩
  rw [Tree.numberOf?, dif_pos hinteger]
  simp only [toInt_numeralOf]

theorem numberOf?_of_not_integral {numeral : Numeral} {x : Binary64}
    (hintegral : numeral.integral = false) (hvalue : numeral.toBinary64 = x)
    (finite : x.isFinite = true) : Tree.numberOf? numeral = some (.real x finite) := by
  subst hvalue
  rw [Tree.numberOf?, dif_neg (by simp [hintegral]), dif_pos finite]

/-- A number is written as a numeral that denotes it. -/
theorem exists_writesNumeral (n : Number) :
    ∃ numeral, WritesNumeral n.text.toList numeral ∧ Tree.numberOf? numeral = some n := by
  cases n with
  | integer n lower upper =>
    exact ⟨numeralOf n, writesNumeral_toString n, numberOf?_numeralOf lower upper⟩
  | real x finite =>
    obtain ⟨numeral, hwrites, hintegral, hvalue⟩ := exists_writesNumeral_real finite
    exact ⟨numeral, hwrites, numberOf?_of_not_integral hintegral hvalue finite⟩

/-! ### Values -/

mutual

/-- A value is written as a tree that stands for it. -/
theorem exists_denotes (value : Json) : ∃ tree, Denotes value tree ∧ tree.value? = some value := by
  match value with
  | .null => exact ⟨_, .null, by rw [Tree.value?]⟩
  | .bool b => exact ⟨_, .bool b, by rw [Tree.value?]⟩
  | .number n =>
    obtain ⟨numeral, hwrites, hnumber⟩ := exists_writesNumeral n
    exact ⟨_, .number (spells_numeral hwrites), by rw [Tree.value?, hnumber, Option.map_some]⟩
  | .string s => exact ⟨_, .string s, by rw [Tree.value?, Option.map_some]⟩
  | .array items =>
    obtain ⟨trees, htrees, hitems⟩ := exists_denoteItems items
    exact ⟨_, .array htrees, by rw [Tree.value?, hitems, Option.map_some]⟩
  | .object fields =>
    obtain ⟨members, hmembers, hfields⟩ := exists_denoteFields fields
    exact ⟨_, .object hmembers, by rw [Tree.value?, hfields, Option.map_some]⟩
termination_by sizeOf value

theorem exists_denoteItems (items : List Json) :
    ∃ trees, DenoteItems items trees ∧ Tree.items? trees = some items := by
  match items with
  | [] => exact ⟨_, .nil, by rw [Tree.items?]⟩
  | item :: rest =>
    obtain ⟨tree, htree, hitem⟩ := exists_denotes item
    obtain ⟨trees, htrees, hrest⟩ := exists_denoteItems rest
    refine ⟨_, .cons htree htrees, ?_⟩
    rw [Tree.items?, hitem, hrest]
    rfl
termination_by sizeOf items

theorem exists_denoteFields (fields : List (String × Json)) :
    ∃ members, DenoteFields fields members ∧ Tree.members? members = some fields := by
  match fields with
  | [] => exact ⟨_, .nil, by rw [Tree.members?]⟩
  | (name, value) :: rest =>
    obtain ⟨tree, htree, hvalue⟩ := exists_denotes value
    obtain ⟨members, hmembers, hrest⟩ := exists_denoteFields rest
    refine ⟨_, .cons name htree hmembers, ?_⟩
    rw [Tree.members?, hvalue, hrest]
    rfl
termination_by sizeOf fields

end

/-- The value that a text says. -/
def read? (text : String) : Option Json := (Tree.parse? text).bind Tree.value?

/-- **Values.** Both written forms of a value are read as the value. -/
theorem read?_written (value : Json) :
    read? value.compact = some value ∧ read? value.pretty = some value := by
  obtain ⟨tree, hdenotes, hvalue⟩ := exists_denotes value
  obtain ⟨hcompact, hpretty⟩ := hdenotes.parse?
  unfold read?
  rw [hcompact, hpretty]
  exact ⟨hvalue, hvalue⟩

end Crosstab.Json

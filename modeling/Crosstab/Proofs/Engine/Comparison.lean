import Crosstab.Proofs.Engine.Order
import Crosstab.Proofs.Engine.Reading

/-!
# Comparing cells with literals

A column of text holds no numbers, and a column of numbers no text that spells one. Between such a
cell and the literal of a value from the same column, `=` with the affinity of the column is plain
equality, because it has nothing left to convert.

    value ──literal──▶ text ──engine──▶ cell

Integers and text come back as they were. A real may come back as a neighbour.
-/

namespace Crosstab

open Engine

/-! ### Values as cells -/

/-- The cell that a value was discovered as. -/
def Value.cell : Value → Cell
  | .integer n => .integer n
  | .real x => .real x
  | .text s => .ofText s

/-- The cell that the engine reads the literal of a value as, in front of a blank. -/
def Value.readBack (value : Value) : Cell :=
  match Sql.joinSigns (Sql.tokens (Sql.literal value ++ " ")) with
  | [token] => literalCell token
  | _ => .null

theorem Value.readBack_eq {value : Value} {token : Sql.Token} (h : Sql.LiteralToken value token) :
    value.readBack = literalCell token := by
  have htokens : Sql.tokens (Sql.literal value ++ " ") = Sql.splitSign token ++ [] := by
    rw [Sql.tokens_eq, String.toList_append]
    have hblank : Sql.scanned [' '] = [] := (Sql.scanned_blank Sql.begins_nil).trans Sql.scanned_nil
    exact (h.scanned_eq []).trans (by rw [hblank])
  unfold Value.readBack
  rw [htokens, Sql.joinSigns_splitSign h.value?_eq, Sql.joinSigns]

namespace Engine

/-- A numeral is an integer or a real both as a value and to the engine. -/
theorem numeral_cases (n : Decimal.Numeral) :
    (∃ m, (Sql.Token.numeral n).value? = some (.integer m) ∧
        literalCell (.numeral n) = .integer m) ∨
      ∃ x y, (Sql.Token.numeral n).value? = some (.real x) ∧
        literalCell (.numeral n) = .ofReal y := by
  by_cases hfits : n.integral = true ∧ -2 ^ 63 ≤ n.toInt ∧ n.toInt < 2 ^ 63
  · have hinteger : integerOf? n = some (Int64.ofInt n.toInt) :=
      if_pos (by simpa [and_assoc] using hfits)
    exact .inl ⟨_, if_pos hfits, by simp [literalCell, Cell.ofNumeral, hinteger]⟩
  · have hreal : integerOf? n = none := by simpa [integerOf?, and_assoc] using hfits
    exact .inr ⟨_, Scaled.read n, if_neg hfits, by simp [literalCell, Cell.ofNumeral, hreal]⟩

theorem literalCell_of_integer {token : Sql.Token} {n : Int64}
    (h : token.value? = some (.integer n)) : literalCell token = .integer n := by
  cases token with
  | numeral numeral =>
    rcases numeral_cases numeral with ⟨m, hvalue, hcell⟩ | ⟨x, y, hvalue, -⟩
    · cases h.symm.trans hvalue
      exact hcell
    · cases h.symm.trans hvalue
  | _ => cases h

theorem literalCell_of_text {token : Sql.Token} {s : String}
    (h : token.value? = some (.text s)) : literalCell token = .ofText s := by
  cases token with
  | numeral numeral =>
    rcases numeral_cases numeral with ⟨m, hvalue, -⟩ | ⟨x, y, hvalue, -⟩
    · cases h.symm.trans hvalue
    · cases h.symm.trans hvalue
  | text content =>
    cases h
    rfl
  | _ => cases h

theorem literalCell_of_real {token : Sql.Token} {x : Binary64}
    (h : token.value? = some (.real x)) : ∃ y, literalCell token = .ofReal y := by
  cases token with
  | numeral numeral =>
    rcases numeral_cases numeral with ⟨m, hvalue, -⟩ | ⟨_, y, -, hcell⟩
    · cases h.symm.trans hvalue
    · exact ⟨y, hcell⟩
  | _ => cases h

end Engine

theorem Value.readBack_integer (n : Int64) : (Value.integer n).readBack = .integer n := by
  have htoken := Sql.literalToken_integer n
  rw [Value.readBack_eq htoken, literalCell_of_integer htoken.value?_eq]

theorem Value.readBack_text (s : String) : (Value.text s).readBack = .ofText s := by
  have htoken := Sql.literalToken_text s
  rw [Value.readBack_eq htoken, literalCell_of_text htoken.value?_eq]

theorem Value.exists_readBack_real {x : Binary64} (h : x.isFinite = true) :
    ∃ y, (Value.real x).readBack = .ofReal y := by
  obtain ⟨token, htoken⟩ := Sql.exists_literalToken_real h
  rw [Value.readBack_eq htoken]
  exact literalCell_of_real htoken.value?_eq

/-- The engine reads the shortest decimal of some reals as a neighbour. -/
example : (Value.real ⟨0x415ae896df8f145a⟩).readBack = .real ⟨0x415ae896df8f145b⟩ := by
  decide +kernel

namespace Engine

/-! ### What columns hold -/

/-- A column of this affinity can hold the cell: a column of text has no numbers, and a column of
numbers no text that spells one. -/
def Affinity.Holds : Affinity → Cell → Prop
  | .none, _ => True
  | .text, cell => textual cell = cell
  | .integer, cell | .real, cell | .numeric, cell => asNumber cell = cell

theorem asNumber_ofReal (x : Binary64) : asNumber (.ofReal x) = .ofReal x := by
  unfold Cell.ofReal
  split <;> rfl

theorem asNumber_ofNumeral (n : Decimal.Numeral) : asNumber (.ofNumeral n) = .ofNumeral n := by
  unfold Cell.ofNumeral
  split
  · rfl
  · exact asNumber_ofReal _

theorem asNumber_asNumber (cell : Cell) : asNumber (asNumber cell) = asNumber cell := by
  cases cell with
  | text bytes =>
    rcases hspelled : (String.fromUTF8? bytes).bind fun s => spelledNumeral? s.toList with _ | n
    · simp [asNumber, hspelled]
    · have hnumber : asNumber (.text bytes) = .ofNumeral n := by simp [asNumber, hspelled]
      rw [hnumber, asNumber_ofNumeral]
  | _ => rfl

theorem asNumber_integral {cell : Cell} (h : asNumber cell = cell) :
    asNumber (integral cell) = integral cell := by
  cases cell with
  | real x =>
    unfold integral
    dsimp only
    split <;> rfl
  | _ => exact h

theorem asNumber_toInteger (cell : Cell) : asNumber (toInteger cell) = toInteger cell := by
  cases cell with
  | text bytes => exact asNumber_integral (asNumber_asNumber (.text bytes))
  | null => rfl
  | integer n => rfl
  | real x => exact asNumber_integral (show asNumber (.real x) = .real x from rfl)
  | blob bytes => rfl

theorem textual_textual (cell : Cell) : textual (textual cell) = textual cell := by
  cases cell <;> rfl

/-- What a column stores it can hold. -/
theorem Affinity.holds_convert (affinity : Affinity) (cell : Cell) :
    affinity.Holds (affinity.convert cell) := by
  cases affinity with
  | none => exact trivial
  | text => exact textual_textual cell
  | real =>
    unfold Affinity.convert
    dsimp only
    split
    · exact rfl
    · exact asNumber_toInteger cell
  | _ => exact asNumber_toInteger cell

theorem Affinity.holds_null (affinity : Affinity) : affinity.Holds .null := by
  cases affinity with
  | none => exact trivial
  | _ => exact rfl

theorem Affinity.adapt_of_holds {affinity : Affinity} {cell : Cell} (h : affinity.Holds cell)
    (other : Cell) : affinity.adapt cell other = cell := by
  cases affinity with
  | none => rfl
  | text =>
    unfold Affinity.adapt
    dsimp only
    split
    · exact h
    · rfl
  | _ => exact h

/-- Between cells of a column, `=` is plain equality. -/
theorem Affinity.equates_of_holds {affinity : Affinity} {cell other : Cell}
    (h : affinity.Holds cell) (h' : affinity.Holds other) :
    affinity.equates cell other = cell.equals other := by
  rw [Affinity.equates, Affinity.adapt_of_holds h, Affinity.adapt_of_holds h']

/-- A column that holds a value can hold what its literal is read as. -/
theorem Affinity.holds_readBack {affinity : Affinity} {value : Value}
    (hfinite : ∀ x, value = .real x → x.isFinite = true) (h : affinity.Holds value.cell) :
    affinity.Holds value.readBack := by
  cases value with
  | integer n => rwa [Value.readBack_integer]
  | text s => rwa [Value.readBack_text]
  | real x =>
    obtain ⟨y, hread⟩ := Value.exists_readBack_real (hfinite x rfl)
    rw [hread]
    cases affinity with
    | none => exact trivial
    | text => cases h
    | _ => exact asNumber_ofReal y

end Engine

end Crosstab

import Crosstab.Sql.ColumnNaming

/-!
# Names of columns

A name that is written bare is a bare identifier, whatever label it comes from: the raw policy
checks that, and the sanitizing one sees to it.
-/

namespace Crosstab.Sql

theorem isIdentifierStart_of_not_isDigit {c : Char} (h : isIdentifierChar c = true)
    (hdigit : c.isDigit = false) : isIdentifierStart c = true := by
  simpa [isIdentifierChar, isIdentifierStart, Char.isAlphanum, hdigit] using h

/-! ### Sanitizing -/

/-- The characters of a text, with an underscore for each that cannot stand in a bare name. -/
def cleaned (text : String) : List Char :=
  text.toList.map fun c => if isIdentifierChar c then c else '_'

/-- What is made of clean characters: a name must not be empty, start with a digit or be a reserved
word. -/
inductive Repaired : List Char → String → Prop where
  | empty : Repaired [] "_"
  | digit {c cs} (hdigit : c.isDigit = true) : Repaired (c :: cs) ("_" ++ String.ofList (c :: cs))
  | reserved {c cs} (hdigit : c.isDigit = false)
    (hreserved : isReserved (String.ofList (c :: cs)) = true) :
    Repaired (c :: cs) (String.ofList (c :: cs) ++ "_")
  | kept {c cs} (hdigit : c.isDigit = false)
    (hfree : isReserved (String.ofList (c :: cs)) = false) :
    Repaired (c :: cs) (String.ofList (c :: cs))

theorem repaired_sanitize (text : String) : Repaired (cleaned text) (sanitize text) := by
  unfold cleaned sanitize
  rcases text.toList.map fun c => if isIdentifierChar c then c else '_' with _ | ⟨c, cs⟩
  · exact .empty
  · dsimp only
    split
    · next hdigit => exact .digit hdigit
    · next hdigit =>
      replace hdigit := Bool.eq_false_iff.2 hdigit
      split
      · next hreserved => exact .reserved hdigit hreserved
      · next hfree => exact .kept hdigit (Bool.eq_false_iff.2 hfree)

theorem all_isIdentifierChar_cleaned (text : String) :
    (cleaned text).all isIdentifierChar = true := by
  unfold cleaned
  rw [List.all_map, List.all_eq_true]
  intro c _
  show isIdentifierChar (if isIdentifierChar c then c else '_') = true
  split
  · assumption
  · decide

theorem Repaired.spelled {chars : List Char} {name : String} (h : Repaired chars name)
    (hall : chars.all isIdentifierChar = true) : isIdentifier name.toList = true := by
  cases h with
  | empty => decide
  | @digit c cs hdigit =>
    have htext : ("_" ++ String.ofList (c :: cs)).toList = '_' :: c :: cs := by simp
    rw [htext]
    simpa [isIdentifier, isIdentifierStart] using hall
  | reserved hdigit hreserved =>
    obtain ⟨hc, hcs⟩ := Bool.and_eq_true_iff.1 hall
    have hlast : isIdentifierChar '_' = true := by decide
    simp only [String.toList_append, String.toList_ofList, List.cons_append, isIdentifier,
      List.all_append, isIdentifierStart_of_not_isDigit hc hdigit, hcs, Bool.true_and]
    exact hlast
  | kept hdigit hfree =>
    obtain ⟨hc, hcs⟩ := Bool.and_eq_true_iff.1 hall
    simpa [isIdentifier, isIdentifierStart_of_not_isDigit hc hdigit] using hcs

theorem isIdentifier_sanitize (text : String) : isIdentifier (sanitize text).toList = true :=
  (repaired_sanitize text).spelled (all_isIdentifierChar_cleaned text)

/-! ### Columns -/

/-- The raw policy takes bare identifiers as they are, and nothing else. -/
theorem columnName_raw_eq_ok_iff {label column : String} :
    ColumnNaming.raw.columnName label = .ok column ↔
      isIdentifier label.toList = true ∧ column = label := by
  unfold ColumnNaming.columnName
  dsimp only
  split
  · next hidentifier => simp [hidentifier, eq_comm]
  · next hother => simp [hother]

/-- Only quoted names can be anything but bare identifiers. -/
theorem isIdentifier_of_columnName {naming : ColumnNaming} (hbare : naming ≠ .quoted)
    {label column : String} (h : naming.columnName label = .ok column) :
    isIdentifier column.toList = true := by
  cases naming with
  | quoted => exact absurd rfl hbare
  | sanitized =>
    cases h
    exact isIdentifier_sanitize label
  | raw =>
    obtain ⟨hidentifier, rfl⟩ := columnName_raw_eq_ok_iff.1 h
    exact hidentifier

end Crosstab.Sql

import Crosstab.Text.CaseTable
import Crosstab.Text.Ranges

/-!
# Lower-casing

Full lower-casing by the Unicode rules. Every character goes to its lower-case form on its own,
with two exceptions: `İ` becomes two characters, an `i` and a combining dot, and `Σ` becomes the
final `ς` at the end of a word and `σ` elsewhere. A `Σ` ends a word if a cased character stands
before it and none stands after it, where characters that are case-ignorable are looked through.

A text may therefore grow, and the form of a character may depend on its neighbours.
-/

namespace Crosstab.Text

/-- A character with the property Cased. -/
def isCased (c : Char) : Bool := inRanges casedRanges c.toNat

/-- A character with the property Case_Ignorable. -/
def isCaseIgnorable (c : Char) : Bool := inRanges caseIgnorableRanges c.toNat

/-- The lower-case form of a character of its own, wherever it stands. -/
def lowerChar (c : Char) : List Char :=
  if c = 'İ' then ['i', '\u0307']
  else
    match lowerRuns.find? (·.covers c.toNat) with
    | some run => [Char.ofNat (Int.toNat (c.toNat + run.shift))]
    | none => [c]

/-- The nearest character that is not case-ignorable is cased. -/
def casedNext (cs : List Char) : Bool :=
  match cs.dropWhile isCaseIgnorable with
  | [] => false
  | c :: _ => isCased c

/-- Lower-cases a text from some place on; `before` is what stands before that place, nearest
character first. -/
def lowerFrom (before : List Char) : List Char → List Char
  | [] => []
  | c :: cs =>
    let form :=
      if c = 'Σ' then (if casedNext before && !casedNext cs then ['ς'] else ['σ'])
      else lowerChar c
    form ++ lowerFrom (c :: before) cs

/-- A text in lower case. -/
def lowerCase (text : String) : String := String.ofList (lowerFrom [] text.toList)

end Crosstab.Text

import Crosstab.Json.Tree

/-!
# Reading typed values from JSON

What a tree has to look like to be a text, a flag, a byte, a named alternative or a record. A
record is an object in which each known field stands at most once and unknown fields do not
matter, or an array of the fields in their order, where fields at the end may be left out.
-/

namespace Crosstab.Json.Tree

/-- A text. -/
def text? : Tree → Option String
  | .string text => text
  | _ => none

/-- A flag. -/
def flag? : Tree → Option Bool
  | .bool b => some b
  | _ => none

/-- A number from 0 to 255, written with digits alone. -/
def byte? : Tree → Option UInt8
  | .numeral n =>
    if n.integral && !n.negative && decide (n.coefficient < 256) then
      some (UInt8.ofNat n.coefficient)
    else none
  | _ => none

/-- One of some named alternatives: its name, or an object of its name with `null`. -/
def oneOf? (alternatives : List (String × α)) : Tree → Option α
  | .string (some name) => alternatives.lookup name
  | .object [(some name, .null)] => alternatives.lookup name
  | _ => none

/-- The members of an object with their names, all of which have to be texts. -/
def named? : List (Option String × Tree) → Option (List (String × Tree))
  | [] => some []
  | (name, value) :: rest => do return (← name, value) :: (← named? rest)

/-- The fields of a record with known names: a look-up for those that are given. -/
def fields? (names : List String) : Tree → Option (String → Option Tree)
  | .object members => do
    let given ← named? members
    if names.any fun name => decide (2 ≤ given.countP (·.1 == name)) then none
    else some fun name => given.lookup name
  | .array items =>
    if items.length ≤ names.length then some fun name => (names.zip items).lookup name else none
  | _ => none

/-- A field that may be left out. -/
def orElse? (field : Option Tree) (default : α) (read : Tree → Option α) : Option α :=
  match field with
  | none => some default
  | some tree => read tree

end Crosstab.Json.Tree

import Crosstab.Binary64

/-!
# JSON values

The values that a cell of a query result can hold, and that reports are made of. A number is an
integer of 64 bits, signed or unsigned, or a finite real; there is no number for NaN or for the
infinities, and where one would stand there is `null`.

Objects are lists of named values in the order in which they are written.
-/

namespace Crosstab

namespace Json

/-- A number of a JSON value. -/
inductive Number where
  /-- An integer that fits into 64 bits, with or without a sign. -/
  | integer (n : Int) (lower : -2 ^ 63 ≤ n) (upper : n < 2 ^ 64)
  /-- A real that is neither infinite nor NaN. -/
  | real (x : Binary64) (finite : x.isFinite = true)
deriving DecidableEq

end Json

/-- A JSON value. -/
inductive Json where
  | null
  | bool (b : Bool)
  | number (n : Json.Number)
  | string (s : String)
  | array (items : List Json)
  | object (fields : List (String × Json))

namespace Json

/-- The value for a real: NaN and the infinities are no numbers. -/
def ofReal (x : Binary64) : Json :=
  if h : x.isFinite = true then .number (.real x h) else .null

/-- The value for an integer; one beyond 64 bits is as near as a real gets to it. -/
def ofInt (n : Int) : Json :=
  if h : -2 ^ 63 ≤ n ∧ n < 2 ^ 64 then .number (.integer n h.1 h.2) else ofReal (.ofInt n)

/-- Puts a named value among fields sorted by name, in place of one of the same name. -/
def insertField (name : String) (value : Json) : List (String × Json) → List (String × Json)
  | [] => [(name, value)]
  | (other, kept) :: rest =>
    if name == other then (name, value) :: rest
    else if decide (name < other) then (name, value) :: (other, kept) :: rest
    else (other, kept) :: insertField name value rest

/-- The object of named values with its fields sorted by name; of equal names the last counts. -/
def sortedObject (fields : List (String × Json)) : Json :=
  .object (fields.foldl (fun sorted field => insertField field.1 field.2 sorted) [])

end Json

end Crosstab

import Crosstab.Store

/-!
# Stored cells

What a cell of a table holds: NULL, an integer of 64 bits, a real other than NaN, text or a blob.
Text is kept as bytes, because a table may hold text that is not UTF-8.

Cells are ordered across kinds: NULL, then numbers, then text, then blobs. Numbers compare by
their exact values, whatever their kind; text and blobs compare by their bytes.
-/

namespace Crosstab.Engine

-- bytes are compared by the core library, whatever else is imported
attribute [instance (high)] ByteArray.instDecidableEq

/-- The content of one cell. -/
inductive Cell where
  | null
  | integer (n : Int64)
  | real (x : Binary64)
  | text (bytes : ByteArray)
  | blob (bytes : ByteArray)
deriving DecidableEq

namespace Cell

/-- The cell of a text. -/
def ofText (s : String) : Cell := .text s.toUTF8

/-- The cell of a real; NaN is stored as NULL. -/
def ofReal (x : Binary64) : Cell := if x.isNaN then .null else .real x

/-- The cell is text. -/
def isText : Cell → Bool
  | .text _ => true
  | _ => false

/-! ### Order -/

/-- The place of the kinds of cells in the order. -/
def kindRank : Cell → Nat
  | .null => 0
  | .integer _ => 1
  | .real _ => 1
  | .text _ => 2
  | .blob _ => 3

/-- An integer against a real, by their exact values. -/
def compareInteger (n : Int64) (x : Binary64) : Ordering :=
  if x.isFinite then Ord.compare (n.toInt * 2 ^ 1074) x.units
  else if x.isNegative then .gt
  else .lt

/-- Bytes in lexicographic order. -/
def compareBytes (a b : ByteArray) : Ordering := Ord.compare a.data.toList b.data.toList

/-- The order of cells. -/
def compare : Cell → Cell → Ordering
  | .integer m, .integer n => Ord.compare m.toInt n.toInt
  | .integer n, .real x => compareInteger n x
  | .real x, .integer n => (compareInteger n x).swap
  | .real x, .real y => Ord.compare x.signedRank y.signedRank
  | .text a, .text b => compareBytes a b
  | .blob a, .blob b => compareBytes a b
  | a, b => Ord.compare a.kindRank b.kindRank

/-- The cells have the same place in the order: so NULLs are the same, and 1 and 1.0 are. -/
def same (a b : Cell) : Bool := a.compare b == .eq

/-- The first cell does not stand behind the second. -/
def notAfter (a b : Cell) : Bool := a.compare b != .gt

/-- SQL's `=` as a condition: true for equal cells other than NULL. -/
def equals (a b : Cell) : Bool := a != .null && a.same b

/-! ### Cells of results -/

/-- The cell of a query result; infinities have no number and become NULL. -/
def toJson (column : String) : Cell → Except StoreError Json
  | .null => .ok .null
  | .integer n => .ok (.ofInt n.toInt)
  | .real x => .ok (.ofReal x)
  | .text bytes =>
    match String.fromUTF8? bytes with
    | some s => .ok (.string s)
    | none => .error (.unsupportedValue column "invalid utf-8 text")
  | .blob _ => .error (.unsupportedValue column "blob")

end Cell

end Crosstab.Engine

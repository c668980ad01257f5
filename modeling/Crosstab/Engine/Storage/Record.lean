import Crosstab.Engine.Affinity
import Crosstab.Engine.Storage.Pages

/-!
# Records

A row is kept as a record: the kinds of its cells, then what the cells hold. Small numbers take
little room, and a number as large as a byte of a file is long takes as many bytes as it has
groups of seven bits. A record that is too long for a page leaves its end to pages of its own.
-/

namespace Crosstab.Engine.Storage

/-! ### The sizes of cells -/

/-- How many bytes a number takes that is written in groups of seven bits. -/
def varintSize (n : Nat) : Nat :=
  match (List.range 8).find? fun groups => n < 128 ^ (groups + 1) with
  | some groups => groups + 1
  | none => 9

/-- What a record says about a cell. -/
structure Stored where
  /-- The number of its kind, which for texts and blobs tells their length, too. -/
  kind : Nat
  /-- How many bytes it takes. -/
  size : Nat
deriving DecidableEq, Repr

namespace Stored

/-- An integer takes as many bytes as its size asks for; zero and one are kinds of their own. -/
def ofInt (n : Int) : Stored :=
  let magnitude := if n < 0 then (-n - 1).toNat else n.toNat
  if n = 0 then ⟨8, 0⟩
  else if n = 1 then ⟨9, 0⟩
  else if magnitude < 2 ^ 7 then ⟨1, 1⟩
  else if magnitude < 2 ^ 15 then ⟨2, 2⟩
  else if magnitude < 2 ^ 23 then ⟨3, 3⟩
  else if magnitude < 2 ^ 31 then ⟨4, 4⟩
  else if magnitude < 2 ^ 47 then ⟨5, 6⟩
  else ⟨6, 8⟩

/-- A real. -/
def real : Stored := ⟨7, 8⟩

/-- A cell in a column without a type. -/
def ofCell : Cell → Stored
  | .null => ⟨0, 0⟩
  | .integer n => ofInt n.toInt
  | .real _ => real
  | .text bytes => ⟨13 + 2 * bytes.size, bytes.size⟩
  | .blob bytes => ⟨12 + 2 * bytes.size, bytes.size⟩

/-- A cell of a column: a REAL column keeps whole numbers as integers where that saves room. -/
def ofColumn (affinity : Affinity) (cell : Cell) : Stored :=
  match affinity, cell with
  | .real, .real x =>
    match wholeOf? x with
    | some n => if (ofInt n.toInt).size < real.size then ofInt n.toInt else real
    | none => real
  | _, cell => ofCell cell

end Stored

/-- The size of a record: its cells behind a header, which tells its own size first. -/
def payloadSize (cells : List Stored) : Nat :=
  let kinds := total (cells.map fun cell => varintSize cell.kind)
  let header := kinds + varintSize kinds
  let header :=
    if kinds < 127 then kinds + 1
    else if varintSize kinds < varintSize header then header + 1
    else header
  header + total (cells.map Stored.size)

/-! ### Records on pages -/

/-- A record: the number of its row, its size, and the pages that hold its end. -/
structure Record where
  key : Nat
  payload : Nat
  spill : List Nat
deriving DecidableEq, Repr

namespace Record

/-- Records up to this size stand on their page as a whole. -/
def wholeLimit : Nat := pageSize - 35

/-- A longer record keeps at least so much of it on its page. -/
def leastKept : Nat := (pageSize - 12) * 32 / 255 - 23

/-- How much of a record a page of its own holds. -/
def spillSize : Nat := pageSize - 4

/-- How much of a record stands on its page: of a longer one so much that the rest fills its pages,
or else the least. -/
def keptSize (payload : Nat) : Nat :=
  if payload ≤ wholeLimit then payload
  else
    let kept := leastKept + (payload - leastKept) % spillSize
    if kept ≤ wholeLimit then kept else leastKept

/-- How many pages hold the end of a record. -/
def spillCount (payload : Nat) : Nat := (payload - keptSize payload + spillSize - 1) / spillSize

/-- The room that a record takes on its page. -/
def size (record : Record) : Nat :=
  varintSize record.payload + varintSize record.key + keptSize record.payload +
    (if record.payload ≤ wholeLimit then 0 else 4)

/-- A new record, with pages for its end. -/
def create (key payload : Nat) (pages : Pages) : Record × Pages :=
  let (spill, pages) := pages.takeChain none (spillCount payload)
  (⟨key, payload, spill⟩, pages)

end Record

end Crosstab.Engine.Storage

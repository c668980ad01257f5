import Crosstab.Engine.Storage.Tree

/-!
# Summaries of pages

What can be told about each page of a tree: its place in the tree, what kind of page it is, and
how much of it is used for what. The places are spelled like paths: each page below another one
adds its position there, and the pages that hold the end of a record add two positions behind a
plus, that of the record and their own.
-/

namespace Crosstab.Engine.Storage

/-- What can be told about one page. -/
structure PageSummary where
  path : String
  page : Nat
  /-- The kind of the page. -/
  kind : String
  /-- How many records or keys it holds. -/
  cells : Nat
  /-- How many bytes of records it holds. -/
  payload : Nat
  unused : Nat
  /-- The size of the longest of its records. -/
  longest : Nat
deriving DecidableEq, Repr

/-- A position in a path, with as many digits as it takes but not less than `least`. -/
def positionText (least position : Nat) : String :=
  let digits := Nat.toDigits 16 position
  String.ofList (List.replicate (least - digits.length) '0' ++ digits)

namespace Record

/-- The summaries of the pages that hold the end of a record. -/
def spillSummaries (path : String) (position : Nat) (record : Record) : List PageSummary :=
  record.spill.zipIdx.map fun (page, index) =>
    let rest := record.payload - keptSize record.payload - index * spillSize
    let payload := min rest spillSize
    { path := path ++ positionText 3 position ++ "+" ++ positionText 6 index
      page
      kind := "overflow"
      cells := 0
      payload
      unused := spillSize - payload
      longest := 0 }

end Record

namespace PageTree

mutual

/-- The summaries of the pages of a tree: each page before those below it. -/
def summaries (path : String) : PageTree → List PageSummary
  | .leaf page records =>
    { path
      page
      kind := "leaf"
      cells := records.length
      payload := total (records.map fun record => Record.keptSize record.payload)
      unused := (PageTree.leaf page records).free
      longest := (records.map Record.payload).foldl max 0 } ::
        records.zipIdx.flatMap fun (record, position) => record.spillSummaries path position
  | .branch page keys children =>
    { path
      page
      kind := "internal"
      cells := keys.length
      payload := 0
      unused := (PageTree.branch page keys children).free
      longest := 0 } :: summariesFrom path 0 children

/-- The summaries of the pages of some trees, the first of which is at the given position. -/
def summariesFrom (path : String) (position : Nat) : List PageTree → List PageSummary
  | [] => []
  | tree :: trees =>
    summaries (path ++ positionText 3 position ++ "/") tree ++
      summariesFrom path (position + 1) trees

end

end PageTree

end Crosstab.Engine.Storage

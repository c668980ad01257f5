import Crosstab.Engine.Storage.Record

/-!
# Trees of pages

The records of a table are in a tree of pages: the leaves hold the records in the order of their
keys, and the other pages tell them apart by keys. The first page of a database has less room than
the others.
-/

namespace Crosstab.Engine.Storage

/-- A page with all that is below it. -/
inductive PageTree where
  | leaf (page : Nat) (records : List Record)
  /-- Each key is the greatest that the child at its place may hold; there is one more child than
  there are keys. -/
  | branch (page : Nat) (keys : List Nat) (children : List PageTree)

namespace PageTree

/-- A tree without records. -/
def empty (page : Nat) : PageTree := .leaf page []

/-! ### Parts -/

/-- The number of the page. -/
def page : PageTree → Nat
  | .leaf page _ => page
  | .branch page _ _ => page

/-- The records on the page itself. -/
def records : PageTree → List Record
  | .leaf _ records => records
  | .branch _ _ _ => []

/-- The keys on the page itself. -/
def keys : PageTree → List Nat
  | .leaf _ _ => []
  | .branch _ keys _ => keys

/-- The pages right below. -/
def children : PageTree → List PageTree
  | .leaf _ _ => []
  | .branch _ _ children => children

/-- The same content on another page. -/
def moved (tree : PageTree) (page : Nat) : PageTree :=
  match tree with
  | .leaf _ records => .leaf page records
  | .branch _ keys children => .branch page keys children

/-! ### Room -/

/-- What the start of a page is used for besides its own: on the first page, the description of
the database. -/
def reserved (page : Nat) : Nat := if page = 1 then 100 else 0

/-- The room for records on a leaf. -/
def leafRoom : Nat := pageSize - 8

/-- The room for keys on another page. -/
def branchRoom : Nat := pageSize - 12

/-- The size of a key with the number of its child. -/
def keySize (key : Nat) : Nat := 4 + varintSize key

/-- The room on the page. -/
def capacity : PageTree → Nat
  | .leaf page _ => leafRoom - reserved page
  | .branch page _ _ => branchRoom - reserved page

/-- The room that is taken; each record and each key takes two bytes besides its own. -/
def used : PageTree → Nat
  | .leaf _ records => total (records.map fun record => record.size + 2)
  | .branch _ keys _ => total (keys.map fun key => keySize key + 2)

/-- The room that is left. -/
def free (tree : PageTree) : Nat := tree.capacity - tree.used

/-- The page holds more than it can. -/
def isOverfull (tree : PageTree) : Bool := decide (tree.capacity < tree.used)

/-- More than two thirds of the page are free. -/
def isSparse (tree : PageTree) : Bool := decide (2 * pageSize < 3 * tree.free)

/-! ### All pages -/

mutual

/-- All pages of a tree: those of a child before those of the next one, and the page itself behind
what is below it. -/
def allPages : PageTree → List Nat
  | .leaf page records => records.flatMap Record.spill ++ [page]
  | .branch page _ children => pagesOfAll children ++ [page]

/-- All pages of some trees. -/
def pagesOfAll : List PageTree → List Nat
  | [] => []
  | tree :: trees => allPages tree ++ pagesOfAll trees

end

mutual

/-- The record of a key. -/
def find? (key : Nat) : PageTree → Option Record
  | .leaf _ records => records.find? fun record => record.key == key
  | .branch _ _ children => findAmong? key children

/-- The record of a key in one of some trees. -/
def findAmong? (key : Nat) : List PageTree → Option Record
  | [] => none
  | tree :: trees => find? key tree <|> findAmong? key trees

end

end PageTree

end Crosstab.Engine.Storage

import Crosstab.Engine.Storage.Distribution
import Crosstab.Engine.Storage.Tree

/-!
# Trees that grow and shrink

Records are added behind all others, and taken out anywhere. A page that has become overfull, or
sparse because something was taken out, is mended together with its siblings: what up to three of
them hold is distributed anew over pages. That changes the page above, which is mended in turn if
it has to be.

The first page of a tree never changes its number. When it is overfull, its content moves to a new
page below it; when it has but one child left, the content of that child moves up.
-/

namespace Crosstab.Engine.Storage

namespace PageTree

/-! ### Siblings -/

/-- The keys of siblings, with the keys between them in their places. -/
def joinedKeys : List PageTree → List Nat → List Nat
  | [], _ => []
  | [tree], _ => tree.keys
  | tree :: trees, [] => tree.keys ++ joinedKeys trees []
  | tree :: trees, key :: keys => tree.keys ++ key :: joinedKeys trees keys

/-- What siblings hold, put on as many pages as it takes: the keys between the pages, and the
pages, which have no numbers yet. -/
def redistributed (siblings : List PageTree) (between : List Nat) : List Nat × List PageTree :=
  if siblings.all fun tree => tree.children.isEmpty then
    let records := siblings.flatMap PageTree.records
    let cuts := cuts leafRoom false (records.map Record.size)
    let groups := ranges false records 0 cuts
    (groups.dropLast.map fun group => (group.getLast?.map Record.key).getD 0,
      groups.map fun group => .leaf 0 group)
  else
    let keys := joinedKeys siblings between
    let children := siblings.flatMap PageTree.children
    let cuts := cuts branchRoom true (keys.map keySize)
    (cuts.map fun cut => keys[cut]?.getD 0,
      List.zipWith (.branch 0) (ranges true keys 0 cuts)
        (ranges false children 0 (cuts.map (· + 1))))

/-! ### Mending -/

/-- A branch in which the child at a place shares anew with its siblings. The pages that they have
are used again, from the first one on; all are put in the order of their numbers. -/
def rebalanced (isRoot : Bool) (page : Nat) (keys : List Nat) (children : List PageTree)
    (place : Nat) (pages : Pages) : PageTree × Pages :=
  let start :=
    if keys.length < 2 ∨ place = 0 then 0
    else if place = keys.length then place - 2
    else place - 1
  let siblings := (children.drop start).take 3
  let numbers := siblings.map PageTree.page
  let (between, trees) := redistributed siblings ((keys.drop start).take (siblings.length - 1))
  let (added, pages) := pages.takeChain numbers.head? (trees.length - numbers.length)
  let used := (numbers.take trees.length ++ added).mergeSort
  let left := numbers.drop trees.length
  let trees := List.zipWith moved trees used
  let keys := keys.take start ++ between ++ keys.drop (start + (siblings.length - 1))
  let children := children.take start ++ trees ++ children.drop (start + siblings.length)
  match isRoot && keys.isEmpty, children with
  | true, [only] =>
    if reserved page ≤ only.free then
      (only.moved page, (pages.release only.page).releaseAll left)
    else (.branch page keys children, pages.releaseAll left)
  | _, _ => (.branch page keys children, pages.releaseAll left)

/-- A branch behind whose last child, a leaf, there is a new one for its last record. -/
def extended (page : Nat) (keys : List Nat) (children : List PageTree) (last : Nat)
    (records : List Record) (pages : Pages) : PageTree × Pages :=
  let (added, pages) := pages.take none
  let kept := records.dropLast
  let key := (kept.getLast?.map Record.key).getD 0
  (.branch page (keys ++ [key])
    (children.dropLast ++ [.leaf last kept, .leaf added (records.drop kept.length)]), pages)

/-- Mends the child of a branch at a place. An overfull leaf at the very end just passes its last
record on, though not right below the first page of a database. -/
def mended (isRoot : Bool) (page : Nat) (keys : List Nat) (children : List PageTree)
    (place : Nat) (pages : Pages) : PageTree × Pages :=
  match children[place]? with
  | some (.leaf last records) =>
    if PageTree.isOverfull (.leaf last records) ∧ place = keys.length ∧ page ≠ 1 then
      extended page keys children last records pages
    else rebalanced isRoot page keys children place pages
  | _ => rebalanced isRoot page keys children place pages

/-! ### Changes -/

/-- A tree after a change. -/
structure Change where
  tree : PageTree
  pages : Pages
  /-- The page of the tree may have to be mended. -/
  unsettled : Bool

/-- The change of a branch whose child at a place has changed. -/
def Change.above (isRoot : Bool) (page : Nat) (keys : List Nat) (children : List PageTree)
    (place : Nat) (pages : Pages) (unsettled : Bool) : Change :=
  if unsettled then
    let (tree, pages) := mended isRoot page keys children place pages
    ⟨tree, pages, tree.isOverfull || tree.isSparse⟩
  else ⟨.branch page keys children, pages, false⟩

/-- Where a branch looks for a key; without a key, at its end. -/
def placeOf (keys : List Nat) : Option Nat → Nat
  | some key => (keys.takeWhile (· < key)).length
  | none => keys.length

mutual

/-- Changes the records of the leaf of a key, or of the last leaf. -/
def changed (isRoot erases : Bool) (key : Option Nat) (change : List Record → List Record)
    (pages : Pages) : PageTree → Change
  | .leaf page records =>
    let tree := .leaf page (change records)
    ⟨tree, pages, tree.isOverfull || erases && tree.isSparse⟩
  | .branch page keys children =>
    let (children, pages, unsettled) :=
      childChanged erases key change pages (placeOf keys key) children
    .above isRoot page keys children (placeOf keys key) pages unsettled

/-- Changes the child at a place. -/
def childChanged (erases : Bool) (key : Option Nat) (change : List Record → List Record)
    (pages : Pages) : Nat → List PageTree → List PageTree × Pages × Bool
  | _, [] => ([], pages, false)
  | 0, tree :: trees =>
    let changed := changed false erases key change pages tree
    (changed.tree :: trees, changed.pages, changed.unsettled)
  | place + 1, tree :: trees =>
    let (trees, pages, unsettled) := childChanged erases key change pages place trees
    (tree :: trees, pages, unsettled)

end

/-- Makes an overfull tree deeper. -/
def Change.settled (change : Change) : PageTree × Pages :=
  if change.tree.isOverfull then
    let (page, pages) := change.pages.take (some change.tree.page)
    mended true change.tree.page [] [change.tree.moved page] 0 pages
  else (change.tree, change.pages)

/-- Adds a record behind all others. -/
def push (tree : PageTree) (record : Record) (pages : Pages) : PageTree × Pages :=
  (changed true false none (· ++ [record]) pages tree).settled

/-- Adds records of some sizes behind all others, with keys from `key` on. -/
def pushAll (tree : PageTree) (key : Nat) (pages : Pages) : List Nat → PageTree × Pages
  | [] => (tree, pages)
  | payload :: payloads =>
    let (record, pages) := Record.create key payload pages
    let (tree, pages) := tree.push record pages
    pushAll tree (key + 1) pages payloads

/-- Puts another record in place of the last one. -/
def replaceLast (tree : PageTree) (record : Record) (pages : Pages) : PageTree × Pages :=
  (changed true false none (fun records => records.dropLast ++ [record]) pages tree).settled

/-- Takes out the record of a key. -/
def erase (tree : PageTree) (key : Nat) (pages : Pages) : PageTree × Pages :=
  let spill := ((tree.find? key).map Record.spill).getD []
  let kept (records : List Record) : List Record := records.filter fun record => record.key != key
  (changed true true (some key) kept (pages.releaseAll spill) tree).settled

end PageTree

end Crosstab.Engine.Storage

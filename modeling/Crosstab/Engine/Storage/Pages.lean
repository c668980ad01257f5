/-!
# Pages

A database is kept in pages of one size, which are numbered from one. Pages that are no longer
needed are free, and are taken again before the database grows. Some of the free pages, the
trunks, list the others; a page that becomes free is listed by the first trunk while there is room
on it, and becomes the first trunk itself if not.
-/

namespace Crosstab.Engine.Storage

/-- The size of a page in bytes. -/
def pageSize : Nat := 4096

/-- The size of several things together. -/
def total (sizes : List Nat) : Nat := sizes.foldl (· + ·) 0

/-! ### Trunks -/

/-- A free page that lists free pages. -/
structure Trunk where
  page : Nat
  leaves : List Nat
deriving DecidableEq, Repr

namespace Trunk

/-- How many pages a trunk lists at most. -/
def room : Nat := pageSize / 4 - 8

/-- How far two pages are apart. -/
def distance (a b : Nat) : Nat := (a - b) + (b - a)

/-- The listed page to take: the first of those nearest to `near`, or the first of all. -/
def leaf? (near : Option Nat) (trunk : Trunk) : Option Nat :=
  match trunk.leaves with
  | [] => none
  | first :: others =>
    match near with
    | none => some first
    | some near =>
      some (others.foldl
        (fun best page => if distance page near < distance best near then page else best) first)

/-- The trunk without a page that it lists: the last page moves to the gap. -/
def without (trunk : Trunk) (leaf : Nat) : Trunk :=
  let last := trunk.leaves.getLast?.getD leaf
  { trunk with leaves := trunk.leaves.dropLast.map fun page => if page = leaf then last else page }

end Trunk

/-! ### Pages -/

/-- The pages of a database. -/
structure Pages where
  /-- How many pages there are, free ones included. -/
  count : Nat
  /-- The trunks of the free pages, the first one first. -/
  trunks : List Trunk
deriving DecidableEq, Repr

namespace Pages

/-- No pages. -/
def empty : Pages := ⟨0, []⟩

/-- The pages of a database that has its first page. -/
def started (pages : Pages) : Pages := { pages with count := max 1 pages.count }

/-- How many pages are free. -/
def freeCount (pages : Pages) : Nat := total (pages.trunks.map fun trunk => trunk.leaves.length + 1)

/-- Takes a page: a free one if there is any, near to another page if that is wished, and a new one
if not. -/
def take (near : Option Nat) (pages : Pages) : Nat × Pages :=
  match pages.trunks with
  | [] => (pages.count + 1, { pages with count := pages.count + 1 })
  | trunk :: trunks =>
    match trunk.leaf? near with
    | none => (trunk.page, { pages with trunks })
    | some leaf => (leaf, { pages with trunks := trunk.without leaf :: trunks })

/-- Takes some pages, each near to the one before it. -/
def takeChain (near : Option Nat) : Nat → Pages → List Nat × Pages
  | 0, pages => ([], pages)
  | count + 1, pages =>
    let (page, pages) := pages.take near
    let (chain, pages) := takeChain (some page) count pages
    (page :: chain, pages)

/-- Frees a page. -/
def release (pages : Pages) (page : Nat) : Pages :=
  match pages.trunks with
  | [] => { pages with trunks := [⟨page, []⟩] }
  | trunk :: trunks =>
    if trunk.leaves.length < Trunk.room then
      { pages with trunks := { trunk with leaves := trunk.leaves ++ [page] } :: trunks }
    else { pages with trunks := ⟨page, []⟩ :: trunk :: trunks }

/-- Frees pages one after the other. -/
def releaseAll (pages : Pages) (freed : List Nat) : Pages := freed.foldl release pages

end Pages

end Crosstab.Engine.Storage

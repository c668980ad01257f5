/-!
# Distribution over pages

How things of different sizes are spread, in their order, over as few pages as hold them. First
each page is filled as far as it goes. Then, from the last page to the first, things move from a
page to the next one for as long as that makes the two more even.

On pages that hold keys, the key between two pages belongs to neither of them: it is lifted.

    sizes ──filled──▶ full pages ──evened──▶ cuts ──ranges──▶ the things on each page
-/

namespace Crosstab.Engine.Storage

/-- A page in the making: the place of the first thing that is not on it, and how full it is. -/
structure Filled where
  stop : Nat
  size : Nat
deriving DecidableEq, Repr

/-- Fills pages of a certain room from the thing at `place` on, where the page that is being filled
has `size` so far. Each thing takes two bytes besides its own. -/
def filled (room : Nat) (lifts : Bool) (place size : Nat) : List Nat → List Filled
  | [] => [⟨place, size⟩]
  | thing :: things =>
    if size + (thing + 2) ≤ room then filled room lifts (place + 1) (size + (thing + 2)) things
    else
      ⟨place, size⟩ :: filled room lifts (place + 1) (if lifts then 0 else thing + 2) things

/-- Moves things from the end of a page, which stops at the given place, to the next page, while
that one stays the smaller of the two by more than `slack`; an empty one gets a thing in any case.
Gives the place where the page stops then, and its size. -/
def evenedPair (sizes : Array Nat) (lifts : Bool) (slack : Nat) : Nat → Nat → Nat → Filled
  | 0, left, _ => ⟨0, left⟩
  | place + 1, left, right =>
    let leaving := sizes[place]?.getD 0
    let coming := sizes[if lifts then place + 1 else place]?.getD 0
    if right ≠ 0 ∧ left < right + (coming + 2) + (leaving + slack) then ⟨place + 1, left⟩
    else evenedPair sizes lifts slack place (left - (leaving + 2)) (right + (coming + 2))

/-- Evens out pages, given from the last but one to the first, against a page of size `right`
behind them; gives the places where they stop, in the same order. -/
def evened (sizes : Array Nat) (lifts : Bool) (slack right : Nat) : List Filled → List Nat
  | [] => []
  | page :: pages =>
    let page := evenedPair sizes lifts slack page.stop page.size right
    page.stop :: evened sizes lifts 2 page.size pages

/-- The places where the pages stop, except for the last one. -/
def cuts (room : Nat) (lifts : Bool) (sizes : List Nat) : List Nat :=
  match (filled room lifts 0 0 sizes).reverse with
  | [] => []
  | last :: pages => (evened sizes.toArray lifts 0 last.size pages).reverse

/-- The things on each page, given where the pages stop. -/
def ranges (lifts : Bool) (things : List α) (start : Nat) : List Nat → List (List α)
  | [] => [things.drop start]
  | cut :: cuts =>
    (things.take cut).drop start :: ranges lifts things (if lifts then cut + 1 else cut) cuts

end Crosstab.Engine.Storage

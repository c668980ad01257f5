import Crosstab.Text.AsciiCase

/-!
# Rosters

Names in the order in which the engine goes through them when it lists all it knows. While they
are few, the newest name comes first. Once there are ten, each name belongs to one of several
groups, by a number made of its letters; a new name comes first in its group, and a new group
comes first of all. When the groups have become crowded there are made more of them, and the names
join their new groups one by one.

Names compare without ASCII case.
-/

namespace Crosstab.Engine

/-- Names in the order in which they are listed. -/
structure Roster where
  names : List String
  /-- How many groups there are; zero while each name is a group of its own. -/
  groups : Nat
deriving DecidableEq, Repr

namespace Roster

/-- No names. -/
def empty : Roster := ⟨[], 0⟩

/-- The number made of the letters of a name. -/
def number (name : String) : UInt32 :=
  name.toUTF8.data.foldl
    (fun sum byte => (sum + (if 65 ≤ byte ∧ byte ≤ 90 then byte + 32 else byte).toUInt32) *
      0x9e3779b1) 0

/-- Two names are in the same one of some groups. -/
def sameGroup (groups : Nat) (a b : String) : Bool :=
  groups != 0 && (number a).toNat % groups == (number b).toNat % groups

/-- Puts a name first in its group, and first of all if it makes a new group. -/
def place (groups : Nat) (names : List String) (name : String) : List String :=
  match names.findIdx? (sameGroup groups name) with
  | some index => names.take index ++ name :: names.drop index
  | none => name :: names

/-- The name is listed. -/
def contains (roster : Roster) (name : String) : Bool :=
  roster.names.any fun other => Text.sameButCase other name

/-- There are never more groups than this. -/
def mostGroups : Nat := 64

/-- The names in their groups again, when one more than there are is to have room. -/
def regrouped (roster : Roster) : Roster :=
  let count := roster.names.length + 1
  let groups := min (2 * count) mostGroups
  if 10 ≤ count ∧ 2 * roster.groups < count ∧ groups ≠ roster.groups then
    ⟨roster.names.foldl (place groups) [], groups⟩
  else roster

/-- Adds a name that is not listed yet. -/
def insert (roster : Roster) (name : String) : Roster :=
  if roster.contains name then roster
  else
    let roster := roster.regrouped
    { roster with names := place roster.groups roster.names name }

/-- Takes a name out; a roster without names has no groups. -/
def erase (roster : Roster) (name : String) : Roster :=
  match roster.names.filter fun other => !Text.sameButCase other name with
  | [] => empty
  | names => { roster with names }

/-- The roster of names added one after the other. -/
def ofList (names : List String) : Roster := names.foldl insert empty

end Roster

end Crosstab.Engine

import Crosstab.Proofs.Json.Printing

/-!
# The grammar of JSON

Which characters write a tree, said without a reader: values with separators around them, items and
members with commas between them, strings and numerals in every form that they can have. Whatever
is written by the grammar is read, and as the tree that it writes.

    tree ◀──Writes── characters ──Spells──▶ tokens of the tree ──parse?──▶ tree
-/

namespace Crosstab.Json

open Decimal (isDigit)

/-- Separators, or nothing at all. -/
def IsGap (gap : List Char) : Prop := ∀ c ∈ gap, isSeparator c = true

mutual

/-- Characters write a tree. -/
inductive Writes : List Char → Tree → Prop
  | null : Writes ['n', 'u', 'l', 'l'] .null
  | true : Writes ['t', 'r', 'u', 'e'] (.bool true)
  | false : Writes ['f', 'a', 'l', 's', 'e'] (.bool false)
  | numeral {cs numeral} (h : WritesNumeral cs numeral) : Writes cs (.numeral numeral)
  | string {cs text} (h : WritesString cs text) : Writes cs (.string text)
  | emptyArray {gap} (hgap : IsGap gap) : Writes ('[' :: gap ++ [']']) (.array [])
  | array {cs items} (h : WritesItems cs items) : Writes ('[' :: cs ++ [']']) (.array items)
  | emptyObject {gap} (hgap : IsGap gap) : Writes ('{' :: gap ++ ['}']) (.object [])
  | object {cs members} (h : WritesMembers cs members) :
    Writes ('{' :: cs ++ ['}']) (.object members)
  | spaced {before cs after tree} (hbefore : IsGap before) (h : Writes cs tree)
    (hafter : IsGap after) : Writes (before ++ (cs ++ after)) tree

/-- Characters write items, at least one. -/
inductive WritesItems : List Char → List Tree → Prop
  | last {cs item} (h : Writes cs item) : WritesItems cs [item]
  | cons {cs ds item items} (h : Writes cs item) (h' : WritesItems ds items) :
    WritesItems (cs ++ ',' :: ds) (item :: items)

/-- Characters write a member. -/
inductive WritesMember : List Char → Option String × Tree → Prop
  | intro {before ns after cs name value} (hbefore : IsGap before) (hname : WritesString ns name)
    (hafter : IsGap after) (h : Writes cs value) :
    WritesMember (before ++ (ns ++ after) ++ ':' :: cs) (name, value)

/-- Characters write members, at least one. -/
inductive WritesMembers : List Char → List (Option String × Tree) → Prop
  | last {cs member} (h : WritesMember cs member) : WritesMembers cs [member]
  | cons {cs ds member members} (h : WritesMember cs member) (h' : WritesMembers ds members) :
    WritesMembers (cs ++ ',' :: ds) (member :: members)

end

/-! ### What is written is read -/

theorem apart_gap {gap : List Char} (hgap : IsGap gap) {c : Char}
    (h : isDigit c = false ∧ c ≠ '.' ∧ c ≠ 'e' ∧ c ≠ 'E') : Apart (gap ++ [c]) := by
  intro rest
  rw [List.append_assoc]
  exact endsNumeral_separated hgap (endsNumeral_cons h _)

theorem WritesItems.ne_nil {cs : List Char} {items : List Tree} (h : WritesItems cs items) :
    items ≠ [] := by
  cases h <;> exact List.cons_ne_nil _ _

theorem WritesMembers.ne_nil {cs : List Char} {members : List (Option String × Tree)}
    (h : WritesMembers cs members) : members ≠ [] := by
  cases h <;> exact List.cons_ne_nil _ _

theorem itemsTokens_cons {item : Tree} {items : List Tree} (h : items ≠ []) :
    Tree.itemsTokens (item :: items) = item.tokens ++ .comma :: Tree.itemsTokens items := by
  cases items with
  | nil => exact absurd rfl h
  | cons => rw [Tree.itemsTokens]

theorem membersTokens_cons {member : Option String × Tree} {members : List (Option String × Tree)}
    (h : members ≠ []) : Tree.membersTokens (member :: members) =
      (.string member.1 :: .colon :: member.2.tokens) ++ .comma :: Tree.membersTokens members := by
  cases members with
  | nil => exact absurd rfl h
  | cons => rw [Tree.membersTokens]

mutual

theorem Writes.spells : {cs : List Char} → {tree : Tree} → Writes cs tree → Spells cs tree.tokens
  | _, _, .null => spells_token (by decide) fun _ _ => rfl
  | _, _, .true => spells_token (by decide) fun _ _ => rfl
  | _, _, .false => spells_token (by decide) fun _ _ => rfl
  | _, _, .numeral h => spells_numeral h
  | _, _, .string h => spells_string h
  | _, _, .emptyArray hgap => spells_nil.inArray _ hgap (apart_gap hgap (by decide))
  | _, _, .array h => by
    have hitems := h.spells.inArray [] (by simp) (apart_cons (by decide) [])
    rwa [List.append_nil] at hitems
  | _, _, .emptyObject hgap => spells_nil.inObject _ hgap (apart_gap hgap (by decide))
  | _, _, .object h => by
    have hmembers := h.spells.inObject [] (by simp) (apart_cons (by decide) [])
    rwa [List.append_nil] at hmembers
  | _, _, .spaced hbefore h hafter => (h.spells.followed hafter).separated hbefore

theorem WritesItems.spells : {cs : List Char} → {items : List Tree} → WritesItems cs items →
    Spells cs (Tree.itemsTokens items)
  | _, _, .last h => h.spells
  | _, _, .cons h h' => by
    rw [itemsTokens_cons h'.ne_nil]
    exact h.spells.comma h'.spells

theorem WritesMember.spells : {cs : List Char} → {member : Option String × Tree} →
    WritesMember cs member → Spells cs (.string member.1 :: .colon :: member.2.tokens)
  | _, _, .intro hbefore hname hafter h =>
    (((spells_string hname).followed hafter).separated hbefore).named h.spells

theorem WritesMembers.spells : {cs : List Char} → {members : List (Option String × Tree)} →
    WritesMembers cs members → Spells cs (Tree.membersTokens members)
  | _, _, .last h => h.spells
  | _, _, .cons h h' => by
    rw [membersTokens_cons h'.ne_nil]
    exact h.spells.comma h'.spells

end

/-- **Reading by the grammar.** A text that writes a tree is read as the tree. -/
theorem Writes.parse?_eq {text : String} {tree : Tree} (h : Writes text.toList tree) :
    Tree.parse? text = some tree := by
  have hread := Tree.parse?_of_spells h.spells
  rwa [String.ofList_toList] at hread

end Crosstab.Json

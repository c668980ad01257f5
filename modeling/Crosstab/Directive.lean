import Crosstab.Directive.Keyword
import Crosstab.Spec
import Crosstab.Text.Blank

/-!
# Directives

A directive is a line of keyword and value pairs, such as

    table sales_wide from sales row id col category val amount

Its tokens are the words of the text, taken two at a time. A keyword counts only in the first
place of a pair; in the second place it is a value like any other. Pairs may come in any order,
pairs with unknown keywords are put aside, and each of the five keywords stands exactly once.

    text ──pairs──▶ keyword and value pairs ──assign──▶ slots ──▶ spec, and what was ignored
-/

namespace Crosstab

/-- Why a text is no directive. -/
inductive DirectiveError where
  /-- There is no token. -/
  | empty
  /-- The last token has no partner. -/
  | dangling (keyword : String)
  /-- A keyword stands twice. -/
  | repeated (keyword : String)
  /-- These keywords do not stand at all. -/
  | missing (keywords : List Keyword)
deriving DecidableEq, Repr

namespace DirectiveError

/-- Names in a list, separated by commas. -/
def listNames (keywords : List Keyword) : String :=
  String.intercalate ", " (keywords.map Keyword.name)

/-- What is shown of an error. -/
def message : DirectiveError → String
  | .empty => "Directive is empty"
  | .dangling keyword => s!"Keyword '{keyword}' is not followed by a value"
  | .repeated keyword => s!"Keyword '{keyword}' appears more than once"
  | .missing keywords => "Missing required information: " ++ listNames keywords

end DirectiveError

/-- A read directive. -/
structure Directive where
  spec : Spec
  /-- The pairs with unknown keywords, in the order of the text. -/
  ignored : List (String × String)
deriving DecidableEq, Repr

namespace Directive

/-! ### Pairs -/

/-- Takes tokens two at a time; a last one without a partner is an error. -/
def pairUp : List String → Except DirectiveError (List (String × String))
  | [] => .ok []
  | [token] => .error (.dangling token)
  | key :: value :: rest => do return (key, value) :: (← pairUp rest)

/-- The pairs of a text. -/
def pairs (text : String) : Except DirectiveError (List (String × String)) :=
  match Text.words text with
  | [] => .error .empty
  | tokens => pairUp tokens

/-! ### Slots -/

/-- The value given to each keyword so far. -/
def Slots : Type := Keyword → Option String

/-- No keyword has a value. -/
def Slots.empty : Slots := fun _ => none

/-- Gives a keyword a value. -/
def Slots.set (slots : Slots) (keyword : Keyword) (value : String) : Slots :=
  fun other => if other = keyword then some value else slots other

/-- Puts the pairs into their slots in order, stops at the first keyword that already has a value,
and collects the pairs that are not for any slot. -/
def assign (slots : Slots) :
    List (String × String) → Except DirectiveError (Slots × List (String × String))
  | [] => .ok (slots, [])
  | (key, value) :: rest =>
    match Keyword.ofToken? key with
    | some keyword =>
      if (slots keyword).isSome then .error (.repeated keyword.name)
      else assign (slots.set keyword value) rest
    | none => do
      let (filled, ignored) ← assign slots rest
      return (filled, (key, value) :: ignored)

/-- The spec of filled slots, or the keywords that have no value. -/
def Slots.spec (slots : Slots) : Except DirectiveError Spec :=
  match slots .table, slots .from, slots .row, slots .col, slots .val with
  | some target, some source, some rowKey, some pivot, some value =>
    .ok { target, source, rowKey, pivot, value }
  | _, _, _, _, _ => .error (.missing (Keyword.all.filter fun keyword => (slots keyword).isNone))

/-- Reads a directive. -/
def parse (text : String) : Except DirectiveError Directive := do
  let (slots, ignored) ← assign .empty (← pairs text)
  return { spec := ← slots.spec, ignored }

/-- A description of directives for their writers. -/
def grammar : String :=
  String.intercalate "\n"
    ["Directive grammar:",
      "",
      "    table <target> from <source> row <group column> col <pivot column> val <value column>",
      "",
      "| Keyword | Meaning |",
      "|---------|---------|",
      "| table | Temporary table created with the pivoted result (dropped first if it exists) |",
      "| from | Source table |",
      "| row | Group key; one output row per distinct value |",
      "| col | Pivot column; one output column per distinct value |",
      "| val | Value column; aggregated with MAX into each cell |",
      "",
      "Keywords are case-sensitive and may appear in any order. Each keyword is",
      "followed by exactly one value. Unknown keywords are ignored.",
      "",
      "Example:",
      "    table sales_wide from sales row id col category val amount"]

end Directive

end Crosstab

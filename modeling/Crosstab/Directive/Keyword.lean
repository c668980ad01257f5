/-!
# Keywords

The five words that give a directive its parts. They are case-sensitive, and all of them are
required.
-/

namespace Crosstab

/-- A word that announces one part of a directive. -/
inductive Keyword where
  | table
  | «from»
  | row
  | col
  | val
deriving DecidableEq, Repr

namespace Keyword

/-- All keywords, in the order of the grammar. -/
def all : List Keyword := [.table, .from, .row, .col, .val]

/-- The keyword as it is written. -/
def name : Keyword → String
  | .table => "table"
  | .from => "from"
  | .row => "row"
  | .col => "col"
  | .val => "val"

/-- The keyword that a token is, if it is one. -/
def ofToken? (token : String) : Option Keyword := all.find? fun keyword => keyword.name == token

end Keyword

end Crosstab

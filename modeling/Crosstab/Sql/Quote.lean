import Crosstab.Text.Quoted
import Crosstab.Value

/-!
# Quoting in SQL

Names stand between double quotes, literals between single quotes, and a quote of the same kind
inside is written twice. A table name may be qualified: it is cut at every dot and each part is
quoted by itself. Numbers stand bare.
-/

namespace Crosstab.Sql

/-- A column name or one part of a table name, in quotes. -/
def quoteName (name : String) : String := String.ofList (Text.Quoted.enclose '"' name.toList)

/-- A text literal. -/
def quoteText (text : String) : String := String.ofList (Text.Quoted.enclose '\'' text.toList)

/-- The parts of a text between its dots; a text without dots is one part, also if it is empty. -/
def splitDots : List Char → List (List Char)
  | [] => [[]]
  | c :: cs =>
    if c = '.' then [] :: splitDots cs
    else
      match splitDots cs with
      | [] => [[c]]
      | part :: parts => (c :: part) :: parts

/-- A table name with each of its parts in quotes. -/
def quoteTable (name : String) : String :=
  String.ofList (List.intercalate ['.'] ((splitDots name.toList).map (Text.Quoted.enclose '"')))

/-- The literal of a pivot value: numbers bare, text in quotes. -/
def literal : Value → String
  | .text s => quoteText s
  | number => number.label

end Crosstab.Sql

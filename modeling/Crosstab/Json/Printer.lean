import Crosstab.Decimal.Layout
import Crosstab.Json.Basic

/-!
# JSON text

Two written forms of a value: the compact one without any blanks, and the pretty one with a line
for each item, indented by two blanks a level. In strings, quotes, backslashes and the control
characters below the blank are escaped, and nothing else.
-/

namespace Crosstab.Json

/-! ### Numbers and strings -/

/-- How JSON writes reals: positional from 10⁻⁵ to below 10¹⁶, with a sign before every exponent. -/
def realLayout : Decimal.Layout where
  leastPositional := -5
  greatestPositional := 15
  exponentSign := "+"
  tie := .even
  notANumber := "null"
  infinity := "null"
  negativeInfinity := "null"

/-- The text of a number. -/
def Number.text : Number → String
  | .integer n _ _ => toString n
  | .real x _ => realLayout.write x

/-- One character of a string, escaped if it has to be. -/
def escapeChar (c : Char) : List Char :=
  if c = '"' then ['\\', '"']
  else if c = '\\' then ['\\', '\\']
  else if c = '\x08' then ['\\', 'b']
  else if c = '\x09' then ['\\', 't']
  else if c = '\x0a' then ['\\', 'n']
  else if c = '\x0c' then ['\\', 'f']
  else if c = '\x0d' then ['\\', 'r']
  else if c.toNat < 32 then
    ['\\', 'u', '0', '0', Nat.digitChar (c.toNat / 16), Nat.digitChar (c.toNat % 16)]
  else [c]

/-- A string in quotes. -/
def quoteString (s : String) : List Char := '"' :: s.toList.flatMap escapeChar ++ ['"']

/-! ### The compact form -/

mutual

/-- The characters of the compact form. -/
def compactChars : Json → List Char
  | .null => ['n', 'u', 'l', 'l']
  | .bool true => ['t', 'r', 'u', 'e']
  | .bool false => ['f', 'a', 'l', 's', 'e']
  | .number n => n.text.toList
  | .string s => quoteString s
  | .array items => '[' :: compactItems items ++ [']']
  | .object fields => '{' :: compactFields fields ++ ['}']

/-- Items with commas between them. -/
def compactItems : List Json → List Char
  | [] => []
  | [item] => compactChars item
  | item :: next :: rest => compactChars item ++ ',' :: compactItems (next :: rest)

/-- Fields with commas between them. -/
def compactFields : List (String × Json) → List Char
  | [] => []
  | [(name, value)] => quoteString name ++ ':' :: compactChars value
  | (name, value) :: next :: rest =>
    quoteString name ++ ':' :: compactChars value ++ ',' :: compactFields (next :: rest)

end

/-- The compact form. -/
def compact (value : Json) : String := String.ofList (compactChars value)

/-! ### The pretty form -/

/-- The start of a line at a level. -/
def newLine (level : Nat) : List Char := '\n' :: List.replicate (2 * level) ' '

mutual

/-- The characters of the pretty form of a value that starts at a level. -/
def prettyChars (level : Nat) : Json → List Char
  | .array [] => ['[', ']']
  | .array (item :: items) => '[' :: prettyItems level (item :: items) ++ newLine level ++ [']']
  | .object [] => ['{', '}']
  | .object (field :: fields) =>
    '{' :: prettyFields level (field :: fields) ++ newLine level ++ ['}']
  | .null => compactChars .null
  | .bool b => compactChars (.bool b)
  | .number n => compactChars (.number n)
  | .string s => compactChars (.string s)

/-- Items on lines of their own, one level in. -/
def prettyItems (level : Nat) : List Json → List Char
  | [] => []
  | [item] => newLine (level + 1) ++ prettyChars (level + 1) item
  | item :: next :: rest =>
    newLine (level + 1) ++ prettyChars (level + 1) item ++ ',' :: prettyItems level (next :: rest)

/-- Fields on lines of their own, one level in. -/
def prettyFields (level : Nat) : List (String × Json) → List Char
  | [] => []
  | [(name, value)] =>
    newLine (level + 1) ++ quoteString name ++ ':' :: ' ' :: prettyChars (level + 1) value
  | (name, value) :: next :: rest =>
    newLine (level + 1) ++ quoteString name ++ ':' :: ' ' :: prettyChars (level + 1) value ++
      ',' :: prettyFields level (next :: rest)

end

/-- The pretty form. -/
def pretty (value : Json) : String := String.ofList (prettyChars 0 value)

end Crosstab.Json

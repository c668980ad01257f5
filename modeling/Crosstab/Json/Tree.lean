import Crosstab.Json.Basic
import Crosstab.Json.Token

/-!
# JSON trees

What JSON text says before anything is made of it: objects keep every member in order, also
members of the same name, and a numeral keeps what it was written as. Trees are built from tokens
with a stack of the arrays and objects that are still open.

    tokens ──Tree.ofTokens?──▶ tree                    tree ──value?──▶ JSON value
-/

namespace Crosstab.Json

open Decimal (Numeral)

/-- A JSON text, taken apart. -/
inductive Tree where
  | null
  | bool (b : Bool)
  | numeral (n : Numeral)
  | string (text : Option String)
  | array (items : List Tree)
  | object (members : List (Option String × Tree))

namespace Tree

/-! ### From tokens -/

/-- An array or object that is not closed yet, with what it holds so far, last first; in an object
`name` belongs to the value that is being read. -/
inductive Frame where
  | array (items : List Tree)
  | object (members : List (Option String × Tree)) (name : Option String)

/-- What may come next. -/
inductive State where
  /-- A value. -/
  | expectValue (frames : List Frame)
  /-- The first item of an array, or its end. -/
  | expectItem (frames : List Frame)
  /-- The first name of an object, or its end. -/
  | expectMember (frames : List Frame)
  /-- A name, behind the members read so far. -/
  | expectName (members : List (Option String × Tree)) (frames : List Frame)
  /-- The colon behind a name. -/
  | expectColon (members : List (Option String × Tree)) (name : Option String)
    (frames : List Frame)
  /-- A comma or an end, behind a value. -/
  | behind (value : Tree) (frames : List Frame)

/-- Reads the first token of a value. -/
def State.startValue (frames : List Frame) : Token → Option State
  | .openArray => some (.expectItem frames)
  | .openObject => some (.expectMember frames)
  | .null => some (.behind .null frames)
  | .bool b => some (.behind (.bool b) frames)
  | .numeral n => some (.behind (.numeral n) frames)
  | .string text => some (.behind (.string text) frames)
  | _ => none

/-- Reads one token. -/
def State.step : State → Token → Option State
  | .expectValue frames, token => startValue frames token
  | .expectItem frames, .closeArray => some (.behind (.array []) frames)
  | .expectItem frames, token => startValue (.array [] :: frames) token
  | .expectMember frames, .closeObject => some (.behind (.object []) frames)
  | .expectMember frames, .string name => some (.expectColon [] name frames)
  | .expectMember _, _ => none
  | .expectName members frames, .string name => some (.expectColon members name frames)
  | .expectName _ _, _ => none
  | .expectColon members name frames, .colon => some (.expectValue (.object members name :: frames))
  | .expectColon _ _ _, _ => none
  | .behind value (.array items :: frames), .comma =>
    some (.expectValue (.array (value :: items) :: frames))
  | .behind value (.array items :: frames), .closeArray =>
    some (.behind (.array (value :: items).reverse) frames)
  | .behind value (.object members name :: frames), .comma =>
    some (.expectName ((name, value) :: members) frames)
  | .behind value (.object members name :: frames), .closeObject =>
    some (.behind (.object ((name, value) :: members).reverse) frames)
  | .behind _ _, _ => none

/-- The tree that a list of tokens spells: one value, and nothing left open. -/
def ofTokens? (tokens : List Token) : Option Tree :=
  match tokens.foldlM State.step (.expectValue []) with
  | some (.behind value []) => some value
  | _ => none

/-- The tree of a JSON text. -/
def parse? (text : String) : Option Tree := (Token.scan text.toList).bind ofTokens?

/-! ### To values -/

/-- The number a numeral denotes: digits alone are an integer if it fits into 64 bits, except for
minus zero; everything else is the nearest real, which has to be finite. -/
def numberOf? (n : Numeral) : Option Number :=
  if h : n.integral = true ∧ ¬(n.negative = true ∧ n.coefficient = 0) ∧
      -2 ^ 63 ≤ n.toInt ∧ n.toInt < 2 ^ 64 then
    some (.integer n.toInt h.2.2.1 h.2.2.2)
  else if h : n.toBinary64.isFinite = true then some (.real n.toBinary64 h)
  else none

mutual

/-- The value that a tree stands for. There is none if a numeral is too large or a string is no
text. -/
def value? : Tree → Option Json
  | .null => some .null
  | .bool b => some (.bool b)
  | .numeral n => (numberOf? n).map .number
  | .string text => text.map .string
  | .array items => (items? items).map .array
  | .object members => (members? members).map .object

/-- The values of items. -/
def items? : List Tree → Option (List Json)
  | [] => some []
  | item :: rest => do return (← value? item) :: (← items? rest)

/-- The named values of members. -/
def members? : List (Option String × Tree) → Option (List (String × Json))
  | [] => some []
  | (name, value) :: rest => do return (← name, ← value? value) :: (← members? rest)

end

end Tree

end Crosstab.Json

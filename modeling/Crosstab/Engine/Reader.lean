import Crosstab.Engine.Affinity
import Crosstab.Engine.Command
import Crosstab.Engine.Keyword

/-!
# Reading commands

The grammar of the engine's statements, read from lexemes. Reading stops at the first lexeme that
cannot stand where it stands; errors are about that lexeme, or say that the statement breaks off.

    lexemes ──Command.read──▶ command, and what follows the statement

SQL words are read in any case. A bare word can be a name unless the grammar has it for itself.
-/

namespace Crosstab.Engine

open Sql (Lexeme Token)

/-- Why a statement cannot be read. -/
inductive ReadFault where
  /-- This lexeme cannot stand here. -/
  | at (lexeme : Lexeme)
  /-- The statement breaks off. -/
  | ended

/-- Reads something from the lexemes of a statement. -/
abbrev Reader : Type → Type := StateT (List Lexeme) (Except ReadFault)

namespace Reader

/-! ### Single lexemes -/

/-- Reads one lexeme that is accepted. -/
def item (accept : Lexeme → Option α) : Reader α := fun lexemes =>
  match lexemes with
  | [] => .error .ended
  | lexeme :: rest =>
    match accept lexeme with
    | some value => .ok (value, rest)
    | none => .error (.at lexeme)

/-- Reads an SQL word. -/
def keyword (word : String) : Reader Unit :=
  item fun lexeme =>
    match lexeme.token with
    | .word spelling => if Text.sameButCase spelling word then some () else none
    | _ => none

/-- Reads SQL words one after the other. -/
def keywords : List String → Reader Unit
  | [] => pure ()
  | word :: words => do
    keyword word
    keywords words

/-- Reads a mark. -/
def mark (written : String) : Reader Unit :=
  item fun lexeme => if lexeme.token = .mark written then some () else none

/-- The next lexeme is a mark. -/
def nextIs (written : String) : Reader Bool := fun lexemes =>
  match lexemes with
  | [] => .ok (false, lexemes)
  | lexeme :: _ => .ok (decide (lexeme.token = .mark written), lexemes)

/-- Reads a name: in quotes of either kind, or a bare word. -/
def name : Reader Name :=
  item fun lexeme =>
    match lexeme.token with
    | .name content => some ⟨content, lexeme⟩
    | .text content => some ⟨content, lexeme⟩
    | .word spelling => if isFreeWord spelling then some ⟨spelling, lexeme⟩ else none
    | _ => none

/-! ### Parts of statements -/

/-- Reads the name of a table. -/
def tableName : Reader TableName := do
  let first ← name
  if ← nextIs "." then
    mark "."
    return ⟨some first, ← name⟩
  else return ⟨none, first⟩

/-- Reads an operand that is one lexeme. -/
def plainOperand : Reader Operand :=
  item fun lexeme =>
    match lexeme.token with
    | .numeral n => some (.literal (.ofNumeral n))
    | .text content => some (.literal (.ofText content))
    | .name content => some (.quoted ⟨content, lexeme⟩)
    | .word spelling => if isFreeWord spelling then some (.bare ⟨spelling, lexeme⟩) else none
    | _ => none

/-- Reads what a minus can stand before: a numeral or a bare name. -/
def negatedOperand : Reader Operand :=
  item fun lexeme =>
    match lexeme.token with
    | .numeral n => some (.literal (.ofNumeral { n with negative := true }))
    | .word spelling => if isFreeWord spelling then some (.negated ⟨spelling, lexeme⟩) else none
    | _ => none

/-- Reads an operand. -/
def operand : Reader Operand := do
  if ← nextIs "-" then
    mark "-"
    negatedOperand
  else plainOperand

/-- Reads a picked column. -/
def pick : Reader Pick := do
  keyword "MAX"
  mark "("
  keywords ["CASE", "WHEN"]
  let left ← operand
  mark "="
  let right ← operand
  keyword "THEN"
  let value ← operand
  keyword "END"
  mark ")"
  keyword "AS"
  return { left, right, value, title := ← name }

/-- Reads picked columns, each behind a comma; there are at most `bound` of them. -/
def picks : Nat → Reader (List Pick)
  | 0 => return []
  | bound + 1 => do
    if ← nextIs "," then
      mark ","
      let first ← pick
      return first :: (← picks bound)
    else return []

/-- Reads the query of a pivot table. -/
def pivotQuery : Reader PivotQuery := do
  keyword "SELECT"
  let key ← operand
  let picks ← picks (← get).length
  keyword "FROM"
  let source ← tableName
  keywords ["GROUP", "BY"]
  return { key, picks, source, group := ← operand }

/-! ### Statements -/

/-- Reads `TABLE IF EXISTS …` behind `DROP`. -/
def dropCommand : Reader Command := do
  keywords ["TABLE", "IF", "EXISTS"]
  return .drop (← tableName)

/-- Reads `TEMP TABLE … AS` behind `CREATE`. -/
def createTarget : Reader TableName := do
  keywords ["TEMP", "TABLE"]
  let target ← tableName
  keyword "AS"
  return target

/-- Reads `TEMP TABLE … AS …` behind `CREATE`. -/
def createCommand : Reader Command := do
  let target ← createTarget
  return .createPivot target (← pivotQuery)

/-- Reads `* FROM …` or `DISTINCT … FROM …` behind `SELECT`. -/
def selectCommand : Reader Command := do
  if ← nextIs "*" then
    mark "*"
    keyword "FROM"
    return .wholeTable (← tableName)
  else
    keyword "DISTINCT"
    let column ← operand
    keyword "FROM"
    return .distinct column (← tableName)

/-- The readers of statements by their first word. -/
def commandReaders : List (String × Reader Command) :=
  [("DROP", dropCommand), ("CREATE", createCommand), ("SELECT", selectCommand)]

/-- Reads a statement without its end. -/
def command : Reader Command := do
  let rest ← item fun lexeme =>
    match lexeme.token with
    | .word spelling =>
      (commandReaders.find? fun entry => Text.sameButCase entry.1 spelling).map (·.2)
    | _ => none
  rest

/-- Reads the end of a statement: a semicolon or the end of the text. What is left is the text
behind the semicolon. -/
def terminator : Reader (List Char) := fun lexemes =>
  match lexemes with
  | [] => .ok ([], [])
  | lexeme :: rest =>
    if lexeme.token = .mark ";" then .ok (lexeme.behind, rest) else .error (.at lexeme)

/-- Reads a statement to its end. -/
def statement : Reader (Command × List Char) := do
  let command ← command
  return (command, ← terminator)

end Reader

/-- The error of a fault in a statement. -/
def ReadFault.error (sql : String) : ReadFault → EngineError
  | .ended => .incomplete
  | .at lexeme =>
    let fault : InputFault :=
      if lexeme.token = .broken then .unrecognized lexeme.written else .unexpected lexeme.written
    .input fault sql (offsetIn sql lexeme)

/-- The statement at the start of a text, and the text behind it. -/
def Command.read (sql : String) : Except EngineError (Command × List Char) :=
  match Reader.statement.run (Lexeme.scan (readPart sql)) with
  | .ok ((command, behind), _) => .ok (command, behind ++ unreadPart sql)
  | .error fault => .error (fault.error sql)

/-- The table that the statement at the start of a text creates, known as soon as `AS` has been
read, whatever follows. -/
def Command.target? (sql : String) : Option TableName :=
  let reader : Reader TableName := do
    Reader.keyword "CREATE"
    Reader.createTarget
  match reader.run (Lexeme.scan (readPart sql)) with
  | .ok (target, _) => some target
  | .error _ => none

end Crosstab.Engine

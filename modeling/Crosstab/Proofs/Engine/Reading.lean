import Crosstab.Engine.Reader
import Crosstab.Proofs.Sql.Template

/-!
# Reading the statements of a run

What the engine makes of the three statements, from their tokens: a drop, a query for distinct
cells, and the creation of a pivot table with one picked column per value. A reader that accepts
takes a part of the tokens that depends on the statement alone, so readers compose like their
tokens:

    taken ++ next, behind ──first──▶ next, behind ──second──▶ behind

A table name of more than two parts is read no further than its second part, and no statement
goes on with a point there.
-/

namespace Crosstab.Engine

open Sql (Lexeme Token splitDots splitDots_ne_nil tableTokens)

namespace Reader

variable {α β : Type}

/-! ### Readers and tokens -/

/-- If a reader accepts lexemes with some tokens, it takes the first part of them and leaves the
other, and what it reads has a property. -/
def Takes (reader : Reader α) (taken behind : List Token) (p : α → Prop) : Prop :=
  ∀ lexemes value rest, lexemes.map Lexeme.token = taken ++ behind →
    reader lexemes = .ok (value, rest) → rest.map Lexeme.token = behind ∧ p value

theorem bind_eq (first : Reader α) (next : α → Reader β) (lexemes : List Lexeme) :
    (first >>= next) lexemes = match first lexemes with
      | .ok (value, rest) => next value rest
      | .error fault => .error fault := by
  show (first lexemes >>= fun entry => next entry.1 entry.2) = _
  rcases first lexemes with fault | ⟨value, rest⟩ <;> rfl

theorem bind_eq_ok_iff {first : Reader α} {next : α → Reader β} {lexemes rest : List Lexeme}
    {value : β} :
    (first >>= next) lexemes = .ok (value, rest) ↔ ∃ middle between,
      first lexemes = .ok (middle, between) ∧ next middle between = .ok (value, rest) := by
  rw [bind_eq]
  rcases first lexemes with fault | ⟨middle, between⟩ <;> simp

theorem Takes.bind {first : Reader α} {next : α → Reader β} {taken more behind : List Token}
    {p : α → Prop} {q : β → Prop} (hfirst : first.Takes taken (more ++ behind) p)
    (hnext : ∀ value, p value → (next value).Takes more behind q) :
    (first >>= next).Takes (taken ++ more) behind q := by
  intro lexemes value rest htokens haccepted
  rw [bind_eq] at haccepted
  rcases hread : first lexemes with fault | ⟨middle, between⟩
  · rw [hread] at haccepted
    cases haccepted
  · rw [hread] at haccepted
    rw [List.append_assoc] at htokens
    obtain ⟨hbetween, hmiddle⟩ := hfirst lexemes middle between htokens hread
    exact hnext middle hmiddle between value rest hbetween haccepted

/-- A reader of one token, and others behind it. -/
theorem Takes.one {first : Reader α} {next : α → Reader β} {token : Token}
    {more behind : List Token} {p : α → Prop} {q : β → Prop}
    (hfirst : first.Takes [token] (more ++ behind) p)
    (hnext : ∀ value, p value → (next value).Takes more behind q) :
    (first >>= next).Takes (token :: more) behind q :=
  hfirst.bind hnext

/-- A reader of two tokens, and others behind it. -/
theorem Takes.two {first : Reader α} {next : α → Reader β} {token following : Token}
    {more behind : List Token} {p : α → Prop} {q : β → Prop}
    (hfirst : first.Takes [token, following] (more ++ behind) p)
    (hnext : ∀ value, p value → (next value).Takes more behind q) :
    (first >>= next).Takes (token :: following :: more) behind q :=
  hfirst.bind hnext

/-- A reader that only looks at what comes, and others behind it. -/
theorem Takes.look {first : Reader α} {next : α → Reader β} {more behind : List Token}
    {p : α → Prop} {q : β → Prop} (hfirst : first.Takes [] (more ++ behind) p)
    (hnext : ∀ value, p value → (next value).Takes more behind q) :
    (first >>= next).Takes more behind q :=
  hfirst.bind hnext

/-- A reader, and behind it one that takes nothing. -/
theorem Takes.last {first : Reader α} {next : α → Reader β} {taken behind : List Token}
    {p : α → Prop} {q : β → Prop} (hfirst : first.Takes taken behind p)
    (hnext : ∀ value, p value → (next value).Takes [] behind q) :
    (first >>= next).Takes taken behind q := by
  rw [← List.append_nil taken]
  exact hfirst.bind hnext

theorem Takes.mono {reader : Reader α} {taken behind : List Token} {p q : α → Prop}
    (h : reader.Takes taken behind p) (hpq : ∀ value, p value → q value) :
    reader.Takes taken behind q := by
  intro lexemes value rest htokens haccepted
  obtain ⟨hrest, hvalue⟩ := h lexemes value rest htokens haccepted
  exact ⟨hrest, hpq value hvalue⟩

theorem takes_return {value : α} {behind : List Token} {p : α → Prop} (h : p value) :
    (pure value : Reader α).Takes [] behind p := by
  intro lexemes other rest htokens haccepted
  cases haccepted
  exact ⟨htokens, h⟩

theorem takes_item (accept : Lexeme → Option α) (token : Token) (behind : List Token) :
    (item accept).Takes [token] behind fun value =>
      ∃ lexeme, lexeme.token = token ∧ accept lexeme = some value := by
  intro lexemes value rest htokens haccepted
  rcases lexemes with _ | ⟨lexeme, lexemes⟩
  · cases htokens
  · obtain ⟨htoken, hrest⟩ := List.cons.inj htokens
    unfold item at haccepted
    dsimp only at haccepted
    split at haccepted
    · next found hfound =>
      cases haccepted
      exact ⟨hrest, lexeme, htoken, hfound⟩
    · cases haccepted

/-- An item that takes a token, by what is accepted of a lexeme with that token. -/
theorem takes_item_of {accept : Lexeme → Option α} {token : Token} {p : α → Prop}
    (h : ∀ start rest value, accept ⟨token, start, rest⟩ = some value → p value)
    (behind : List Token) : (item accept).Takes [token] behind p := by
  refine (takes_item accept token behind).mono ?_
  rintro value ⟨⟨_, start, rest⟩, rfl, hvalue⟩
  exact h start rest value hvalue

theorem takes_nextIs (written : String) (behind : List Token) :
    (nextIs written).Takes [] behind fun found =>
      found = decide (behind.head? = some (.mark written)) := by
  intro lexemes value rest htokens haccepted
  rcases lexemes with _ | ⟨lexeme, lexemes⟩
  · cases haccepted
    obtain rfl : [] = behind := htokens
    exact ⟨rfl, rfl⟩
  · cases haccepted
    obtain rfl : lexeme.token :: lexemes.map Lexeme.token = behind := htokens
    exact ⟨rfl, by simp⟩

theorem takes_keyword (word : String) (token : Token) (behind : List Token) :
    (keyword word).Takes [token] behind fun _ => True :=
  takes_item_of (fun _ _ _ _ => trivial) behind

theorem takes_mark (written : String) (token : Token) (behind : List Token) :
    (mark written).Takes [token] behind fun _ => True :=
  takes_item_of (fun _ _ _ _ => trivial) behind

theorem takes_keywords (spellings : List String) (tokens behind : List Token)
    (hlength : tokens.length = spellings.length) :
    (keywords spellings).Takes tokens behind fun _ => True := by
  induction spellings generalizing tokens with
  | nil =>
    obtain rfl := List.length_eq_zero_iff.1 hlength
    exact takes_return trivial
  | cons spelling spellings ih =>
    rcases tokens with _ | ⟨token, tokens⟩
    · cases hlength
    · exact (takes_keyword spelling token _).one fun _ _ => ih tokens (by simpa using hlength)

theorem takes_name (content : String) (behind : List Token) :
    name.Takes [.name content] behind fun name => name.text = content := by
  refine takes_item_of (fun start rest value hvalue => ?_) behind
  cases hvalue
  rfl

theorem takes_nameToken (naming : Sql.ColumnNaming) (column : String) (behind : List Token) :
    name.Takes [Sql.nameToken naming column] behind fun name => name.text = column := by
  cases naming with
  | quoted => exact takes_name column behind
  | _ =>
    -- a bare name is read as one if it is no word of the language
    refine takes_item_of (fun start rest value hvalue => ?_) behind
    simp only [Sql.nameToken] at hvalue
    split at hvalue
    · cases hvalue
      rfl
    · cases hvalue

/-! ### Table names -/

theorem takes_tableName_bare {content : String} {behind : List Token}
    (hbehind : behind.head? ≠ some (.mark ".")) :
    tableName.Takes [.name content] behind fun table =>
      table.qualifierText = none ∧ table.table.text = content := by
  unfold tableName
  refine (takes_name content _).one fun first hfirst => ?_
  refine (takes_nextIs "." _).look fun found hfound => ?_
  obtain rfl : found = false := by simpa [hbehind] using hfound
  exact takes_return ⟨rfl, hfirst⟩

/-- A qualified name is read whatever follows it. -/
theorem takes_tableName_qualified (qualifier content : String) (behind : List Token) :
    tableName.Takes [.name qualifier, .mark ".", .name content] behind fun table =>
      table.qualifierText = some qualifier ∧ table.table.text = content := by
  unfold tableName
  refine (takes_name qualifier _).one fun first hfirst => ?_
  refine (takes_nextIs "." _).look fun found hfound => ?_
  obtain rfl : found = true := by simpa using hfound
  refine (takes_mark "." _ _).one fun _ _ => ?_
  refine (takes_name content _).one fun second hsecond => ?_
  exact takes_return ⟨congrArg some hfirst, hsecond⟩

/-! ### Operands -/

/-- What does not start with a minus is read as one lexeme. -/
theorem takes_operand_plain {token : Token} (hminus : token ≠ .mark "-") {behind : List Token}
    {p : Operand → Prop} (h : plainOperand.Takes [token] behind p) :
    operand.Takes [token] behind p := by
  unfold operand
  refine (takes_nextIs "-" _).look fun found hfound => ?_
  obtain rfl : found = false := by simpa [hminus] using hfound
  exact h

theorem takes_operand_name (content : String) (behind : List Token) :
    operand.Takes [.name content] behind fun operand =>
      ∃ name, operand = .quoted name ∧ name.text = content := by
  refine takes_operand_plain (by simp) (takes_item_of (fun start rest value hvalue => ?_) behind)
  cases hvalue
  exact ⟨_, rfl, rfl⟩

end Reader

/-- The cell that the engine reads the token of a literal as. -/
def literalCell : Token → Cell
  | .numeral n => .ofNumeral n
  | .text content => .ofText content
  | _ => .null

namespace Reader

theorem takes_operand_literal {token : Token} {value : Value}
    (hvalue : token.value? = some value) (behind : List Token) :
    operand.Takes (Sql.splitSign token) behind fun operand =>
      operand = .literal (literalCell token) := by
  rcases token with _ | content | ⟨negative, coefficient, exponent, integral⟩ | _ | _ | _ | _
  case text =>
    refine takes_operand_plain (by simp) (takes_item_of (fun start rest value hvalue => ?_) behind)
    cases hvalue
    rfl
  case numeral =>
    cases negative with
    | false =>
      refine takes_operand_plain (by simp)
        (takes_item_of (fun start rest value hvalue => ?_) behind)
      cases hvalue
      rfl
    | true =>
      -- the minus is a token of its own, and the numeral behind it has no sign yet
      unfold operand
      refine (takes_nextIs "-" _).look fun found hfound => ?_
      obtain rfl : found = true := by simpa [Sql.splitSign] using hfound
      refine (takes_mark "-" _ _).one fun _ _ => ?_
      refine takes_item_of (fun start rest value hvalue => ?_) behind
      cases hvalue
      rfl
  all_goals cases hvalue

end Reader

/-! ### Pivot queries -/

/-- An operand is a quoted name. -/
def Operand.IsQuoted (operand : Operand) (content : String) : Prop :=
  ∃ name, operand = .quoted name ∧ name.text = content

/-- A picked column compares the pivot column with a literal, takes the value column and has the
name of its column. -/
structure Pick.Stands (spec : Spec) (pick : Pick) (token : Token) (column : String) : Prop where
  left : pick.left.IsQuoted spec.pivot
  right : pick.right = .literal (literalCell token)
  value : pick.value.IsQuoted spec.value
  title : pick.title.text = column

/-- The tokens of a picked column behind its comma. -/
def pickTokens (spec : Spec) (literal : List Token) (name : Token) : List Token :=
  .word "MAX" :: .mark "(" :: .word "CASE" :: .word "WHEN" :: .name spec.pivot :: .mark "=" ::
    (literal ++ [.word "THEN", .name spec.value, .word "END", .mark ")", .word "AS", name])

theorem columnTokens_eq (spec : Spec) (literal : List Token) (name : Token) :
    Sql.columnTokens spec literal name = .mark "," :: pickTokens spec literal name := by
  simp [Sql.columnTokens, Sql.words, pickTokens]

namespace Reader

theorem takes_pick (spec : Spec) {token : Token} {value : Value}
    (hvalue : token.value? = some value) (naming : Sql.ColumnNaming) (column : String)
    (behind : List Token) :
    pick.Takes (pickTokens spec (Sql.splitSign token) (Sql.nameToken naming column)) behind
      fun pick => pick.Stands spec token column := by
  unfold pick pickTokens
  refine (takes_keyword "MAX" _ _).one fun _ _ => ?_
  refine (takes_mark "(" _ _).one fun _ _ => ?_
  refine (takes_keywords ["CASE", "WHEN"] _ _ rfl).two fun _ _ => ?_
  refine (takes_operand_name spec.pivot _).one fun left hleft => ?_
  refine (takes_mark "=" _ _).one fun _ _ => ?_
  refine (takes_operand_literal hvalue _).bind fun right hright => ?_
  refine (takes_keyword "THEN" _ _).one fun _ _ => ?_
  refine (takes_operand_name spec.value _).one fun value hvalue => ?_
  refine (takes_keyword "END" _ _).one fun _ _ => ?_
  refine (takes_mark ")" _ _).one fun _ _ => ?_
  refine (takes_keyword "AS" _ _).one fun _ _ => ?_
  refine (takes_nameToken naming column _).one fun title htitle => ?_
  exact takes_return ⟨hleft, hright, hvalue, htitle⟩

/-- The tokens of picked columns. -/
def picksTokens (spec : Spec) (naming : Sql.ColumnNaming) (literals : List Token)
    (columns : List String) : List Token :=
  (List.zipWith (Sql.columnTokens spec) (literals.map Sql.splitSign)
    (columns.map (Sql.nameToken naming))).flatten

theorem takes_picks (spec : Spec) (naming : Sql.ColumnNaming) {behind : List Token}
    (hbehind : behind.head? ≠ some (.mark ",")) {literals : List Token} {columns : List String}
    (hliterals : ∀ token ∈ literals, ∃ value, token.value? = some value)
    (hlength : columns.length = literals.length) (bound : Nat) (hbound : literals.length ≤ bound) :
    (picks bound).Takes (picksTokens spec naming literals columns) behind fun picks =>
      List.Forall₂ (fun pick entry => pick.Stands spec entry.1 entry.2) picks
        (literals.zip columns) := by
  -- the bound on the columns is the fuel of the reader, and the tokens are never fewer than columns
  induction bound generalizing literals columns with
  | zero =>
    obtain rfl := List.length_eq_zero_iff.1 (Nat.le_zero.1 hbound)
    exact takes_return .nil
  | succ bound ih =>
    unfold picks
    rcases literals with _ | ⟨token, literals⟩
    · refine (takes_nextIs "," _).look fun found hfound => ?_
      obtain rfl : found = false := by simpa [picksTokens, hbehind] using hfound
      exact takes_return .nil
    rcases columns with _ | ⟨column, columns⟩
    · cases hlength
    obtain ⟨value, hvalue⟩ := hliterals token List.mem_cons_self
    have htokens : picksTokens spec naming (token :: literals) (column :: columns) =
        .mark "," :: (pickTokens spec (Sql.splitSign token) (Sql.nameToken naming column) ++
          picksTokens spec naming literals columns) := by
      simp [picksTokens, columnTokens_eq]
    rw [htokens]
    refine (takes_nextIs "," _).look fun found hfound => ?_
    obtain rfl : found = true := by simpa using hfound
    refine (takes_mark "," _ _).one fun _ _ => ?_
    refine (takes_pick spec hvalue naming column _).bind fun first hfirst => ?_
    have hrest := ih (fun t ht => hliterals t (List.mem_cons_of_mem _ ht))
      (Nat.succ.inj hlength) (Nat.le_of_succ_le_succ hbound)
    exact hrest.last fun others hothers => takes_return (.cons hfirst hothers)

end Reader

/-! ### References to tables -/

/-- The database and the table that a name with points refers to; a name of more than two parts
refers to nothing. -/
def tableRef? (name : String) : Option (Option String × String) :=
  match splitDots name.toList with
  | [table] => some (none, String.ofList table)
  | [qualifier, table] => some (some (String.ofList qualifier), String.ofList table)
  | _ => none

/-- A table in a statement is the one that a name refers to. -/
def TableName.Refers (table : TableName) (name : String) : Prop :=
  tableRef? name = some (table.qualifierText, table.table.text)

/-- What is read for a table: its whole name, or two parts of it in front of a point. -/
theorem tableTokens_cases (name : String) :
    (∃ table, tableRef? name = some (none, table) ∧ tableTokens name = [.name table]) ∨
      (∃ qualifier table, tableRef? name = some (some qualifier, table) ∧
        tableTokens name = [.name qualifier, .mark ".", .name table]) ∨
      (tableRef? name = none ∧ ∃ first second rest,
        tableTokens name = .name first :: .mark "." :: .name second :: .mark "." :: rest) := by
  unfold tableRef? tableTokens
  rcases hparts : splitDots name.toList with _ | ⟨first, _ | ⟨second, _ | ⟨third, rest⟩⟩⟩
  · exact absurd hparts (splitDots_ne_nil _)
  · exact .inl ⟨_, rfl, rfl⟩
  · exact .inr (.inl ⟨_, _, rfl, rfl⟩)
  · exact .inr (.inr ⟨rfl, _, _, _, rfl⟩)

namespace Reader

theorem takes_tableName {name : String} (hname : (tableRef? name).isSome = true)
    {behind : List Token} (hbehind : behind.head? ≠ some (.mark ".")) :
    tableName.Takes (tableTokens name) behind fun table => table.Refers name := by
  rcases tableTokens_cases name with ⟨table, href, htokens⟩ | ⟨qualifier, table, href, htokens⟩ |
    ⟨href, -⟩
  · rw [htokens]
    refine (takes_tableName_bare hbehind).mono ?_
    rintro found ⟨hqualifier, htable⟩
    rw [TableName.Refers, href, hqualifier, htable]
  · rw [htokens]
    refine (takes_tableName_qualified qualifier table behind).mono ?_
    rintro found ⟨hqualifier, htable⟩
    rw [TableName.Refers, href, hqualifier, htable]
  · rw [href] at hname
    cases hname

/-! ### Statements -/

theorem takes_terminator_nil : terminator.Takes [] [] fun behind => behind = [] := by
  intro lexemes value rest htokens haccepted
  obtain rfl := List.map_eq_nil_iff.1 htokens
  cases haccepted
  exact ⟨rfl, rfl⟩

/-- No statement ends in front of a point. -/
theorem takes_terminator_point (behind : List Token) :
    terminator.Takes [] (.mark "." :: behind) fun _ => False := by
  intro lexemes value rest htokens haccepted
  rcases lexemes with _ | ⟨lexeme, lexemes⟩
  · cases htokens
  · obtain ⟨htoken, -⟩ := List.cons.inj htokens
    have hpoint : lexeme.token ≠ .mark ";" := by
      rw [htoken]
      decide
    unfold terminator at haccepted
    dsimp only at haccepted
    rw [if_neg hpoint] at haccepted
    cases haccepted

section Statement

variable {before : List Token} {p : TableName → Command → Prop}

/-- Two parts of a table name are read, and no statement goes on with a point behind them. -/
theorem takes_statement_point
    (h : ∀ {taken behind : List Token} {q : TableName → Prop}, tableName.Takes taken behind q →
      command.Takes (before ++ taken) behind fun command => ∃ table, q table ∧ p table command)
    (first second : String) (rest : List Token) :
    statement.Takes (before ++ (.name first :: .mark "." :: .name second :: .mark "." :: rest)) []
      fun _ => False := by
  have hread := (h (takes_tableName_qualified first second (.mark "." :: rest))).last
    fun command _ => (takes_terminator_point rest).last fun behind hfalse =>
      (hfalse.elim : Takes (pure (command, behind)) [] _ fun _ => False)
  intro lexemes value left hlexemes haccepted
  refine (hread lexemes value left ?_ haccepted).2.elim
  rw [hlexemes]
  simp

/-- A statement that ends with the name of a table. -/
theorem takes_statement {name : String}
    (h : ∀ {taken behind : List Token} {q : TableName → Prop}, tableName.Takes taken behind q →
      command.Takes (before ++ taken) behind fun command => ∃ table, q table ∧ p table command) :
    statement.Takes (before ++ tableTokens name) [] fun result =>
      (∃ table, table.Refers name ∧ p table result.1) ∧ result.2 = [] := by
  rcases hname : tableRef? name with _ | ref
  · rcases tableTokens_cases name with ⟨_, href, -⟩ | ⟨_, _, href, -⟩ |
      ⟨-, first, second, rest, htokens⟩
    · rw [hname] at href
      cases href
    · rw [hname] at href
      cases href
    · rw [htokens]
      exact (takes_statement_point h first second rest).mono fun _ hfalse => hfalse.elim
  · have hsome : (tableRef? name).isSome = true := by rw [hname]; rfl
    unfold statement
    refine (h (takes_tableName hsome (by simp))).last fun command hcommand => ?_
    refine takes_terminator_nil.last fun behind hbehind => ?_
    exact takes_return ⟨hcommand, hbehind⟩

/-- The tokens of a table name that is cut off: parts that are whole, each with a point behind it,
and one that does not end. -/
def cutTokens (parts : List String) : List Token :=
  parts.flatMap (fun part => [.name part, .mark "."]) ++ [.broken]

theorem takes_name_broken (behind : List Token) : name.Takes [.broken] behind fun _ => False := by
  refine takes_item_of (fun start rest value hvalue => ?_) behind
  cases hvalue

/-- No statement ends with a table name that is cut off. -/
theorem takes_statement_cut
    (h : ∀ {taken behind : List Token} {q : TableName → Prop}, tableName.Takes taken behind q →
      command.Takes (before ++ taken) behind fun command => ∃ table, q table ∧ p table command)
    (parts : List String) :
    statement.Takes (before ++ cutTokens parts) [] fun _ => False := by
  have hcut {taken : List Token} (hname : tableName.Takes taken [] fun _ => False) :
      statement.Takes (before ++ taken) [] fun _ => False :=
    (h hname).last fun _ hfound => hfound.elim fun _ hfalse => hfalse.1.elim
  -- the reader stops at the broken token unless two whole parts come before it
  rcases parts with _ | ⟨first, _ | ⟨second, parts⟩⟩
  · apply hcut
    unfold tableName
    exact (takes_name_broken _).last fun _ hfalse => hfalse.elim
  · apply hcut
    unfold tableName
    refine (takes_name first _).one fun _ _ => ?_
    refine (takes_nextIs "." _).look fun found hfound => ?_
    obtain rfl : found = true := by simpa using hfound
    refine (takes_mark "." _ _).one fun _ _ => ?_
    exact (takes_name_broken _).last fun _ hfalse => hfalse.elim
  · exact takes_statement_point h first second (cutTokens parts)

end Statement

/-- A command by its first word. -/
theorem takes_command {spelling : String} {reader : Reader Command}
    (hreader : (commandReaders.find? fun entry => Text.sameButCase entry.1 spelling).map (·.2) =
      some reader) {taken behind : List Token} {p : Command → Prop}
    (h : reader.Takes taken behind p) :
    command.Takes (.word spelling :: taken) behind p := by
  unfold command
  refine (takes_item _ _ _).one fun found hfound => ?_
  obtain ⟨lexeme, htoken, haccepted⟩ := hfound
  rw [htoken] at haccepted
  obtain rfl : reader = found := Option.some.inj (hreader.symm.trans haccepted)
  exact h

theorem takes_drop {taken behind : List Token} {q : TableName → Prop}
    (h : tableName.Takes taken behind q) :
    command.Takes (Sql.words ["DROP", "TABLE", "IF", "EXISTS"] ++ taken) behind fun command =>
      ∃ table, q table ∧ command = .drop table := by
  have hreader : (commandReaders.find? fun entry => Text.sameButCase entry.1 "DROP").map (·.2) =
      some dropCommand := rfl
  refine takes_command hreader ?_
  unfold dropCommand
  refine (takes_keywords ["TABLE", "IF", "EXISTS"] _ _ rfl).bind fun _ _ => ?_
  exact h.last fun table htable => takes_return ⟨table, htable, rfl⟩

theorem takes_distinct {content : String} {taken behind : List Token} {q : TableName → Prop}
    (h : tableName.Takes taken behind q) :
    command.Takes (Sql.words ["SELECT", "DISTINCT"] ++ [.name content] ++ Sql.words ["FROM"] ++
        taken) behind fun command =>
      ∃ table, q table ∧ ∃ operand, operand.IsQuoted content ∧
        command = .distinct operand table := by
  have hreader : (commandReaders.find? fun entry => Text.sameButCase entry.1 "SELECT").map (·.2) =
      some selectCommand := rfl
  refine takes_command hreader ?_
  unfold selectCommand
  refine (takes_nextIs "*" _).look fun found hfound => ?_
  obtain rfl : found = false := by simpa [Sql.words] using hfound
  refine (takes_keyword "DISTINCT" _ _).one fun _ _ => ?_
  refine (takes_operand_name content _).one fun operand hoperand => ?_
  refine (takes_keyword "FROM" _ _).one fun _ _ => ?_
  exact h.last fun table htable => takes_return ⟨table, htable, operand, hoperand, rfl⟩

/-- A broken token is no operand. -/
theorem takes_operand_broken (behind : List Token) :
    operand.Takes [.broken] behind fun _ => False := by
  refine takes_operand_plain (by decide) (takes_item_of (fun start rest value hvalue => ?_) behind)
  cases hvalue

theorem takes_distinct_broken {p : Command × List Char → Prop} :
    statement.Takes (Sql.words ["SELECT", "DISTINCT"] ++ [.broken]) [] p := by
  have hreader : (commandReaders.find? fun entry => Text.sameButCase entry.1 "SELECT").map (·.2) =
      some selectCommand := rfl
  have hcommand : command.Takes (Sql.words ["SELECT", "DISTINCT"] ++ [.broken]) []
      fun _ => False := by
    refine takes_command hreader ?_
    unfold selectCommand
    refine (takes_nextIs "*" _).look fun found hfound => ?_
    obtain rfl : found = false := by simpa [Sql.words] using hfound
    refine (takes_keyword "DISTINCT" _ _).one fun _ _ => ?_
    exact (takes_operand_broken _).last fun _ hfalse => hfalse.elim
  unfold statement
  exact hcommand.last fun _ hfalse => hfalse.elim

end Reader

/-! ### Creation -/

/-- A query of a pivot table as the statement of a run asks for it. -/
structure PivotQuery.Asks (spec : Spec) (literals : List Token) (columns : List String)
    (query : PivotQuery) : Prop where
  key : query.key.IsQuoted spec.rowKey
  picks : List.Forall₂ (fun pick entry => Pick.Stands spec pick entry.1 entry.2) query.picks
    (literals.zip columns)
  source : query.source.Refers spec.source
  group : query.group.IsQuoted spec.rowKey

namespace Reader

theorem takes_get (behind : List Token) :
    (get : Reader (List Lexeme)).Takes [] behind fun lexemes =>
      lexemes.map Lexeme.token = behind := by
  intro lexemes value rest htokens haccepted
  cases haccepted
  exact ⟨htokens, htokens⟩

section Create

variable {spec : Spec} {naming : Sql.ColumnNaming} {literals : List Token} {columns : List String}

/-- The tokens of the query of a pivot statement, without parentheses. -/
def queryTokens (spec : Spec) (naming : Sql.ColumnNaming) (literals : List Token)
    (columns : List String) : List Token :=
  .word "SELECT" :: .name spec.rowKey :: (picksTokens spec naming literals columns ++
    .word "FROM" :: (tableTokens spec.source ++ [.word "GROUP", .word "BY", .name spec.rowKey]))

theorem length_picksTokens (spec : Spec) (naming : Sql.ColumnNaming)
    (hlength : columns.length = literals.length) :
    literals.length ≤ (picksTokens spec naming literals columns).length := by
  induction literals generalizing columns with
  | nil => exact Nat.zero_le _
  | cons token literals ih =>
    rcases columns with _ | ⟨column, columns⟩
    · cases hlength
    have := ih (Nat.succ.inj hlength)
    simp only [picksTokens, List.map_cons, List.zipWith_cons_cons, List.flatten_cons,
      List.length_append, columnTokens_eq, List.length_cons] at this ⊢
    omega

theorem takes_pivotQuery (hsource : (tableRef? spec.source).isSome = true)
    (hliterals : ∀ token ∈ literals, ∃ value, token.value? = some value)
    (hlength : columns.length = literals.length) (behind : List Token) :
    pivotQuery.Takes (queryTokens spec naming literals columns) behind
      fun query => query.Asks spec literals columns := by
  unfold pivotQuery queryTokens
  refine (takes_keyword "SELECT" _ _).one fun _ _ => ?_
  refine (takes_operand_name spec.rowKey _).one fun key hkey => ?_
  refine (takes_get _).look fun lexemes hlexemes => ?_
  have hbound : literals.length ≤ lexemes.length := by
    have hcount := congrArg List.length hlexemes
    rw [List.length_map, List.append_assoc, List.length_append] at hcount
    have := length_picksTokens spec naming hlength
    omega
  refine (takes_picks spec naming ?_ hliterals hlength _ hbound).bind fun picks hpicks => ?_
  · simp
  refine (takes_keyword "FROM" _ _).one fun _ _ => ?_
  refine (takes_tableName hsource (by simp)).bind fun source hsource => ?_
  refine (takes_keywords ["GROUP", "BY"] _ _ rfl).two fun _ _ => ?_
  refine (takes_operand_name spec.rowKey _).one fun group hgroup => ?_
  exact takes_return ⟨hkey, hpicks, hsource, hgroup⟩

/-- No query starts with a parenthesis. -/
theorem takes_pivotQuery_open (taken behind : List Token) :
    pivotQuery.Takes (.mark "(" :: taken) behind fun _ => False := by
  have hselect : (keyword "SELECT").Takes [.mark "("] (taken ++ behind) fun _ => False := by
    refine takes_item_of (fun start rest value haccepted => ?_) _
    cases haccepted
  intro lexemes value rest htokens haccepted
  unfold pivotQuery at haccepted
  rw [bind_eq] at haccepted
  rcases hread : keyword "SELECT" lexemes with fault | ⟨_, between⟩
  · rw [hread] at haccepted
    cases haccepted
  · exact (hselect lexemes _ between htokens hread).2.elim

theorem takes_createTarget (htarget : (tableRef? spec.target).isSome = true)
    (behind : List Token) :
    createTarget.Takes (.word "TEMP" :: .word "TABLE" ::
      (tableTokens spec.target ++ [.word "AS"])) behind fun target =>
        target.Refers spec.target := by
  unfold createTarget
  refine (takes_keywords ["TEMP", "TABLE"] _ _ rfl).two fun _ _ => ?_
  refine (takes_tableName htarget (by simp)).bind fun target htarget => ?_
  refine (takes_keyword "AS" _ _).one fun _ _ => ?_
  exact takes_return htarget

/-- The creation of a table, by what is read as its query. -/
theorem takes_creation (htarget : (tableRef? spec.target).isSome = true) {taken : List Token}
    {p : PivotQuery → Prop} (h : pivotQuery.Takes taken [] p) :
    statement.Takes (.word "CREATE" :: .word "TEMP" :: .word "TABLE" ::
        (tableTokens spec.target ++ .word "AS" :: taken)) [] fun result =>
      (∃ target query, result.1 = .createPivot target query ∧ target.Refers spec.target ∧
        p query) ∧ result.2 = [] := by
  have hreader : (commandReaders.find? fun entry => Text.sameButCase entry.1 "CREATE").map (·.2) =
      some createCommand := rfl
  have htokens : .word "TEMP" :: .word "TABLE" ::
      (tableTokens spec.target ++ .word "AS" :: taken) = (.word "TEMP" :: .word "TABLE" ::
        (tableTokens spec.target ++ [.word "AS"])) ++ taken := by simp
  have hcommand : createCommand.Takes (.word "TEMP" :: .word "TABLE" ::
      (tableTokens spec.target ++ .word "AS" :: taken)) [] fun command =>
        ∃ target query, command = .createPivot target query ∧ target.Refers spec.target ∧
          p query := by
    rw [htokens]
    unfold createCommand
    refine (takes_createTarget htarget (taken ++ [])).bind fun target htarget => ?_
    exact h.last fun query hquery => takes_return ⟨target, query, rfl, htarget, hquery⟩
  unfold statement
  refine (takes_command hreader hcommand).last fun command hcommand => ?_
  exact takes_terminator_nil.last fun behind hbehind => takes_return ⟨hcommand, hbehind⟩

/-- The creation of a pivot table: its query is read as it is meant, and not in parentheses. -/
theorem takes_create (dialect : Sql.Dialect) (htarget : (tableRef? spec.target).isSome = true)
    (hsource : (tableRef? spec.source).isSome = true)
    (hliterals : ∀ token ∈ literals, ∃ value, token.value? = some value)
    (hlength : columns.length = literals.length) :
    statement.Takes (Sql.template spec dialect (literals.map Sql.splitSign)
        (columns.map (Sql.nameToken naming))) [] fun result =>
      (∃ target query, result.1 = .createPivot target query ∧ target.Refers spec.target ∧
        query.Asks spec literals columns) ∧ result.2 = [] := by
  cases hwraps : dialect.wrapsQuery with
  | false =>
    have htokens : Sql.template spec dialect (literals.map Sql.splitSign)
        (columns.map (Sql.nameToken naming)) = .word "CREATE" :: .word "TEMP" :: .word "TABLE" ::
          (tableTokens spec.target ++ .word "AS" :: queryTokens spec naming literals columns) := by
      simp [Sql.template, Sql.headerTokens, Sql.footerTokens, Sql.words, hwraps, queryTokens,
        picksTokens]
    rw [htokens]
    exact takes_creation htarget (takes_pivotQuery hsource hliterals hlength [])
  | true =>
    have htokens : ∃ taken, Sql.template spec dialect (literals.map Sql.splitSign)
        (columns.map (Sql.nameToken naming)) = .word "CREATE" :: .word "TEMP" :: .word "TABLE" ::
          (tableTokens spec.target ++ .word "AS" :: .mark "(" :: taken) := by
      simp [Sql.template, Sql.headerTokens, Sql.words, hwraps]
    obtain ⟨taken, htokens⟩ := htokens
    rw [htokens]
    refine (takes_creation htarget (takes_pivotQuery_open taken [])).mono ?_
    rintro result ⟨⟨target, query, -, -, hfalse⟩, -⟩
    exact hfalse.elim

end Create

end Reader

end Crosstab.Engine

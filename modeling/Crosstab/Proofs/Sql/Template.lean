import Crosstab.Proofs.Sql.Naming
import Crosstab.Proofs.Sql.Quoting
import Crosstab.Proofs.Sql.Scanning
import Crosstab.Proofs.Sql.Statement

/-!
# Statements as tokens

No text leaves its place in a statement. Scanned again, each of the three statements of a run is
the token list of a template: the words of SQL are where they belong, every name decodes to the
field of the spec that it stands for, and every literal to its value, whatever quotes, points,
semicolons or comment marks the texts are made of.

    spec, values, columns ──build──▶ text ──tokens──▶ template

The scanner takes a minus for a mark of its own; `joinSigns` makes it the sign of the numeral
behind it.
-/

namespace Crosstab.Sql

open Decimal (Numeral Spelling)

/-! ### Words, names and tables -/

/-- Words with a blank behind each. -/
def spaced (words : List String) : List Char := words.flatMap fun word => word.toList ++ [' ']

/-- The parts of a table name between its points, each a name. -/
def tableTokens (name : String) : List Token :=
  ((splitDots name.toList).map fun part => Token.name (String.ofList part)).intersperse (.mark ".")

theorem begins_of_isIdentifier {word : List Char} (h : isIdentifier word = true)
    (rest : List Char) : Begins (word ++ rest) := by
  rcases word with _ | ⟨c, cs⟩
  · cases h
  obtain ⟨hlow, hhigh⟩ := toNat_of_start (Bool.and_eq_true_iff.1 h).1
  exact begins_cons (isPlainStart_of_toNat (by omega) hhigh) _

theorem begins_spaced {words : List String}
    (hwords : words.all (fun word => isIdentifier word.toList) = true) {rest : List Char}
    (hrest : Begins rest) : Begins (spaced words ++ rest) := by
  rcases words with _ | ⟨word, words⟩
  · exact hrest
  · have hword := (Bool.and_eq_true_iff.1 hwords).1
    rw [spaced, List.flatMap_cons, List.append_assoc, List.append_assoc]
    exact begins_of_isIdentifier hword _

theorem scanned_spaced {words : List String}
    (hwords : words.all (fun word => isIdentifier word.toList) = true) {rest : List Char}
    (hrest : Begins rest) :
    scanned (spaced words ++ rest) = words.map .word ++ scanned rest := by
  induction words with
  | nil => rfl
  | cons word words ih =>
    obtain ⟨hword, hwords⟩ := Bool.and_eq_true_iff.1 hwords
    have hsplit : spaced (word :: words) ++ rest =
        word.toList ++ ' ' :: (spaced words ++ rest) := by
      simp [spaced]
    rw [hsplit, scanned_word hword (isBreak_cons (by decide) _), String.ofList_toList,
      scanned_blank (begins_spaced hwords hrest), ih hwords]
    rfl

theorem begins_quoted (content rest : List Char) :
    Begins (Text.Quoted.enclose '"' content ++ rest) := begins_cons (by decide) _

theorem scanned_quoteName (name : String) {rest : List Char} (hrest : IsBreak rest) :
    scanned ((quoteName name).toList ++ rest) = .name name :: scanned rest := by
  rw [toList_quoteName, scanned_name _ hrest, String.ofList_toList]

theorem begins_quoteName (name : String) (rest : List Char) :
    Begins ((quoteName name).toList ++ rest) := by
  rw [toList_quoteName]
  exact begins_quoted _ _

theorem scanned_partsText {parts : List (List Char)} (hparts : parts ≠ []) {rest : List Char}
    (hrest : IsBreak rest) :
    scanned (partsText parts ++ rest) =
      (parts.map fun part => Token.name (String.ofList part)).intersperse (.mark ".") ++
        scanned rest := by
  induction parts with
  | nil => exact absurd rfl hparts
  | cons part parts ih =>
    rcases parts with _ | ⟨next, parts⟩
    · rw [partsText_singleton, scanned_name _ hrest]
      rfl
    · have hnext : next :: parts ≠ [] := List.cons_ne_nil _ _
      obtain ⟨tail, htail⟩ := partsText_eq_quote hnext
      have hih := ih hnext
      rw [partsText_cons_cons, List.append_assoc, List.cons_append,
        scanned_name _ (isBreak_cons (by decide) _), htail]
      rw [htail] at hih
      rw [List.cons_append] at hih ⊢
      rw [scanned_point, hih]
      rfl

theorem scanned_quoteTable (name : String) {rest : List Char} (hrest : IsBreak rest) :
    scanned ((quoteTable name).toList ++ rest) = tableTokens name ++ scanned rest := by
  rw [toList_quoteTable]
  exact scanned_partsText (splitDots_ne_nil _) hrest

theorem begins_quoteTable (name : String) (rest : List Char) :
    Begins ((quoteTable name).toList ++ rest) := by
  obtain ⟨tail, htail⟩ := partsText_eq_quote (splitDots_ne_nil name.toList)
  rw [toList_quoteTable, htail]
  exact begins_cons (by decide) _

/-! ### Literals -/

/-- The value that a token of a literal stands for: text, an integer of 64 bits if the numeral is
written as one that fits, and the nearest real otherwise. -/
def Token.value? : Token → Option Value
  | .text content => some (.text content)
  | .numeral n =>
    if n.integral ∧ -2 ^ 63 ≤ n.toInt ∧ n.toInt < 2 ^ 63 then some (.integer (Int64.ofInt n.toInt))
    else some (.real n.toBinary64)
  | _ => none

theorem value?_of_integral {n : Numeral} (h : n.integral = true)
    (hrange : -2 ^ 63 ≤ n.toInt ∧ n.toInt < 2 ^ 63) :
    (Token.numeral n).value? = some (.integer (Int64.ofInt n.toInt)) :=
  if_pos ⟨h, hrange⟩

theorem value?_of_not_integral {n : Numeral} (h : n.integral = false) :
    (Token.numeral n).value? = some (.real n.toBinary64) :=
  if_neg fun hintegral => Bool.false_ne_true (h.symm.trans hintegral.1)

/-- A token with its sign as a mark of its own. -/
def splitSign : Token → List Token
  | .numeral n =>
    if n.negative then [.mark "-", .numeral { n with negative := false }] else [.numeral n]
  | token => [token]

/-- A minus in front of a numeral becomes its sign. -/
def joinSigns : List Token → List Token
  | [] => []
  | .mark "-" :: .numeral n :: tokens => .numeral { n with negative := true } :: joinSigns tokens
  | token :: tokens => token :: joinSigns tokens

/-- The text of a spelling behind its sign. -/
def signedText (negative : Bool) (spelling : Spelling) : List Char :=
  (if negative then ['-'] else []) ++ spelling.text

theorem text_eq_cons {spelling : Spelling} (h : spelling.Sound) :
    ∃ c cs, spelling.text = c :: cs ∧ Decimal.isDigit c = true := by
  rcases hwhole : spelling.whole with _ | ⟨c, cs⟩
  · exact absurd hwhole h.whole_ne
  · have hdigits := h.whole_digits
    rw [hwhole, List.all_cons, Bool.and_eq_true] at hdigits
    exact ⟨c, _, by rw [Spelling.text, hwhole, List.cons_append], hdigits.1⟩

theorem begins_signedText {spelling : Spelling} (h : spelling.Sound) (negative : Bool)
    (rest : List Char) : Begins (signedText negative spelling ++ rest) := by
  obtain ⟨c, cs, htext, hc⟩ := text_eq_cons h
  obtain ⟨hlow, hhigh⟩ := toNat_of_isDigit hc
  rw [signedText, htext]
  cases negative with
  | true => exact begins_minus (ne_of_isDigit hc (by decide)) _
  | false => exact begins_cons (isPlainStart_of_toNat hlow (by omega)) _

theorem scanned_signedText {spelling : Spelling} (h : spelling.Sound) (negative : Bool)
    (rest : List Char) :
    scanned (signedText negative spelling ++ ' ' :: rest) =
      splitSign (.numeral { spelling.numeral with negative }) ++ scanned (' ' :: rest) := by
  have hnumeral := scanned_numeral h rest
  have hsign := spelling.positive_numeral
  cases negative with
  | false =>
    simp only [signedText, splitSign, hsign]
    exact hnumeral
  | true =>
    obtain ⟨c, cs, htext, hc⟩ := text_eq_cons h
    rw [htext] at hnumeral
    simp only [signedText, splitSign, hsign, htext, if_true, List.cons_append, List.nil_append]
    rw [List.cons_append] at hnumeral
    rw [scanned_minus hc, hnumeral]

/-- The spelling of a whole number. -/
def wholeSpelling (n : Nat) : Spelling := ⟨Decimal.digitChars n, none, none⟩

theorem sound_wholeSpelling (n : Nat) : (wholeSpelling n).Sound := by
  refine ⟨Decimal.digitChars_ne_nil n, Decimal.all_isDigit_digitChars n, ?_, ?_, ?_⟩ <;> rintro _ ⟨⟩

/-- The text of an integer is a sign and the digits of its magnitude. -/
theorem toList_toString (n : Int) :
    (toString n).toList = signedText (decide (n < 0)) (wholeSpelling n.natAbs) := by
  rw [Decimal.toList_toString]
  simp [signedText, wholeSpelling, Spelling.text, Spelling.fractionText, Spelling.powerText]

/-- What a literal is scanned as. -/
structure LiteralToken (value : Value) (token : Token) : Prop where
  value?_eq : token.value? = some value
  begins : ∀ rest, Begins ((literal value).toList ++ ' ' :: rest)
  scanned_eq : ∀ rest, scanned ((literal value).toList ++ ' ' :: rest) =
    splitSign token ++ scanned (' ' :: rest)

theorem literalToken_text (s : String) : LiteralToken (.text s) (.text s) := by
  have htext : (literal (.text s)).toList = Text.Quoted.enclose '\'' s.toList :=
    toList_quoteText s
  refine ⟨rfl, fun rest => ?_, fun rest => ?_⟩
  · rw [htext]
    exact begins_cons (by decide) _
  · rw [htext, scanned_text _ (isBreak_cons (by decide) _), String.ofList_toList]
    rfl

/-- The numeral of an integer: its sign and its magnitude. -/
theorem numeral_wholeSpelling (n : Int) :
    { (wholeSpelling n.natAbs).numeral with negative := decide (n < 0) } =
      (⟨decide (n < 0), n.natAbs, 0, true⟩ : Numeral) := by
  simp [wholeSpelling, Spelling.numeral, Spelling.mantissa, Decimal.readDigits_digitChars]

theorem toInt_signed (n : Int) : (⟨decide (n < 0), n.natAbs, 0, true⟩ : Numeral).toInt = n := by
  unfold Numeral.toInt
  by_cases h : n < 0
  · simp only [h, decide_true, if_true]
    omega
  · simp only [h, decide_false]
    rw [if_neg (by decide)]
    omega

theorem literalToken_integer (n : Int64) :
    LiteralToken (.integer n) (.numeral ⟨decide (n.toInt < 0), n.toInt.natAbs, 0, true⟩) := by
  have htext : (literal (.integer n)).toList =
      signedText (decide (n.toInt < 0)) (wholeSpelling n.toInt.natAbs) := toList_toString n.toInt
  have hvalue := toInt_signed n.toInt
  refine ⟨?_, fun rest => ?_, fun rest => ?_⟩
  · rw [value?_of_integral rfl (by rw [hvalue]; exact ⟨Int64.le_toInt n, Int64.toInt_lt n⟩), hvalue,
      Int64.ofInt_toInt]
  · rw [htext]
    exact begins_signedText (sound_wholeSpelling _) _ _
  · rw [htext, ← numeral_wholeSpelling]
    exact scanned_signedText (sound_wholeSpelling _) _ _

/-- A finite number is neither NaN nor infinite, so its magnitude is written. -/
theorem toList_literal_real {x : Binary64} (hfinite : x.isFinite = true) :
    (literal (.real x)).toList =
      (if x.isNegative then ['-'] else []) ++ Value.realLayout.writeMagnitude x.rank :=
  Decimal.toList_write hfinite

theorem exists_literalToken_real {x : Binary64} (hfinite : x.isFinite = true) :
    ∃ token, LiteralToken (.real x) token := by
  have hlayout : Value.realLayout.exponentSign = "" := rfl
  obtain ⟨spelling, hsound, htext, hintegral, -, hread⟩ :=
    Decimal.exists_spelling_writeMagnitude hlayout (of_decide_eq_true hfinite)
  have hliteral : (literal (.real x)).toList = signedText x.isNegative spelling := by
    rw [toList_literal_real hfinite, signedText, htext]
  refine ⟨.numeral { spelling.numeral with negative := x.isNegative }, ?_, fun rest => ?_,
    fun rest => ?_⟩
  · have hvalue : Numeral.toBinary64 { spelling.numeral with negative := x.isNegative } = x := by
      rw [hread, Binary64.ofRank_rank]
    have htoken := value?_of_not_integral
      (show ({ spelling.numeral with negative := x.isNegative } : Numeral).integral = false from
        hintegral)
    rw [htoken, hvalue]
  · rw [hliteral]
    exact begins_signedText hsound _ _
  · rw [hliteral]
    exact scanned_signedText hsound _ _

/-- Every literal other than an infinity is scanned as a token that stands for its value. -/
theorem exists_literalToken {value : Value} (hfinite : ∀ x, value = .real x → x.isFinite = true) :
    ∃ token, LiteralToken value token := by
  cases value with
  | text s => exact ⟨_, literalToken_text s⟩
  | integer n => exact ⟨_, literalToken_integer n⟩
  | real x => exact exists_literalToken_real (hfinite x rfl)

/-! ### Templates -/

/-- Words of SQL. -/
def words (spellings : List String) : List Token := spellings.map .word

/-- The tokens in front of the columns of a pivot statement. -/
def headerTokens (spec : Spec) (dialect : Dialect) : List Token :=
  words ["CREATE", "TEMP", "TABLE"] ++ tableTokens spec.target ++ words ["AS"] ++
    (if dialect.wrapsQuery then [.mark "("] else []) ++ words ["SELECT"] ++ [.name spec.rowKey]

/-- The tokens of one column, around those of its literal. -/
def columnTokens (spec : Spec) (literal : List Token) (name : Token) : List Token :=
  [.mark ",", .word "MAX", .mark "("] ++ words ["CASE", "WHEN"] ++ [.name spec.pivot, .mark "="] ++
    literal ++ words ["THEN"] ++ [.name spec.value] ++ words ["END"] ++ [.mark ")"] ++
    words ["AS"] ++ [name]

/-- The tokens behind the columns of a pivot statement. -/
def footerTokens (spec : Spec) (dialect : Dialect) : List Token :=
  words ["FROM"] ++ tableTokens spec.source ++ words ["GROUP", "BY"] ++ [.name spec.rowKey] ++
    (if dialect.wrapsQuery then [.mark ")"] else [])

/-- The tokens of a pivot statement with a literal and a name for each of its columns. -/
def template (spec : Spec) (dialect : Dialect) (literals : List (List Token))
    (names : List Token) : List Token :=
  headerTokens spec dialect ++ (List.zipWith (columnTokens spec) literals names).flatten ++
    footerTokens spec dialect

/-- The tokens of the query for the values. -/
def discoveryTokens (spec : Spec) : List Token :=
  words ["SELECT", "DISTINCT"] ++ [.name spec.pivot] ++ words ["FROM"] ++ tableTokens spec.source

/-- The tokens of the statement that drops a table. -/
def dropTokens (table : String) : List Token :=
  words ["DROP", "TABLE", "IF", "EXISTS"] ++ tableTokens table

/-- The token of a column's name: quoted or bare, as the policy has it. -/
def nameToken (naming : ColumnNaming) (column : String) : Token :=
  match naming with
  | .quoted => .name column
  | _ => .word column

/-! ### Scanning the statements -/

/-- A column's name, as it is rendered, is its token. -/
theorem scanned_render {naming : ColumnNaming} {label column : String}
    (h : naming.columnName label = .ok column) {rest : List Char} (hrest : IsBreak rest) :
    scanned ((naming.render column).toList ++ rest) = nameToken naming column :: scanned rest := by
  have hbare (hne : naming ≠ .quoted) :
      scanned (column.toList ++ rest) = .word column :: scanned rest := by
    rw [scanned_word (isIdentifier_of_columnName hne h) hrest, String.ofList_toList]
  cases naming with
  | quoted => exact scanned_quoteName column hrest
  | sanitized => exact hbare (by decide)
  | raw => exact hbare (by decide)

theorem begins_render {naming : ColumnNaming} {label column : String}
    (h : naming.columnName label = .ok column) (rest : List Char) :
    Begins ((naming.render column).toList ++ rest) := by
  have hbare (hne : naming ≠ .quoted) : Begins (column.toList ++ rest) :=
    begins_of_isIdentifier (isIdentifier_of_columnName hne h) rest
  cases naming with
  | quoted => exact begins_quoteName column rest
  | sanitized => exact hbare (by decide)
  | raw => exact hbare (by decide)

theorem toList_header (spec : Spec) (dialect : Dialect) :
    (header spec dialect).toList = spaced ["CREATE", "TEMP", "TABLE"] ++
      ((quoteTable spec.target).toList ++ ' ' :: (spaced ["AS"] ++
        ((if dialect.wrapsQuery then ['('] else []) ++
          (spaced ["SELECT"] ++ (quoteName spec.rowKey).toList)))) := by
  unfold header
  cases dialect.wrapsQuery <;> simp [spaced]

theorem toList_fragment (spec : Spec) (naming : ColumnNaming) (value : Value) (column : String) :
    (fragment spec naming value column).toList =
      ',' :: ' ' :: ("MAX".toList ++ '(' :: (spaced ["CASE", "WHEN"] ++
        ((quoteName spec.pivot).toList ++ ' ' :: '=' :: ' ' :: ((literal value).toList ++ ' ' ::
          (spaced ["THEN"] ++ ((quoteName spec.value).toList ++ ' ' ::
            ("END".toList ++ ')' :: ' ' ::
              (spaced ["AS"] ++ (naming.render column).toList)))))))) := by
  unfold fragment
  simp [spaced]

theorem toList_footer (spec : Spec) (dialect : Dialect) :
    (footer spec dialect).toList = ' ' :: (spaced ["FROM"] ++
      ((quoteTable spec.source).toList ++ ' ' :: (spaced ["GROUP", "BY"] ++
        ((quoteName spec.rowKey).toList ++ if dialect.wrapsQuery then [')'] else [])))) := by
  unfold footer
  cases dialect.wrapsQuery <;> simp [spaced]

/-- What stands between `AS` and the key: perhaps a parenthesis, and `SELECT`. -/
theorem scanned_select (wraps : Bool) {rest : List Char} (hrest : Begins rest) :
    Begins ((if wraps then ['('] else []) ++ (spaced ["SELECT"] ++ rest)) ∧
      scanned ((if wraps then ['('] else []) ++ (spaced ["SELECT"] ++ rest)) =
        (if wraps then [.mark "("] else []) ++ (words ["SELECT"] ++ scanned rest) := by
  have hselect : scanned (spaced ["SELECT"] ++ rest) = words ["SELECT"] ++ scanned rest :=
    scanned_spaced (by decide) hrest
  cases wraps with
  | false => exact ⟨begins_spaced (by decide) hrest, hselect⟩
  | true => exact ⟨begins_cons (by decide) _, by
      rw [← hselect]
      exact scanned_open _⟩

theorem scanned_header (spec : Spec) (dialect : Dialect) {rest : List Char}
    (hrest : IsBreak rest) :
    scanned ((header spec dialect).toList ++ rest) = headerTokens spec dialect ++ scanned rest := by
  obtain ⟨hbegins, hselect⟩ := scanned_select dialect.wrapsQuery (begins_quoteName spec.rowKey rest)
  rw [toList_header]
  simp only [List.append_assoc, List.cons_append]
  rw [scanned_spaced (by decide) (begins_quoteTable _ _),
    scanned_quoteTable _ (isBreak_cons (by decide) _),
    scanned_blank (begins_spaced (by decide) hbegins), scanned_spaced (by decide) hbegins, hselect,
    scanned_quoteName _ hrest]
  simp [headerTokens, words]

/-- A column is scanned around its literal. -/
theorem scanned_fragment {spec : Spec} {naming : ColumnNaming} {value : Value} {column : String}
    {token : Token} (htoken : LiteralToken value token)
    (hname : naming.columnName value.label = .ok column) {rest : List Char}
    (hrest : IsBreak rest) :
    scanned ((fragment spec naming value column).toList ++ rest) =
      columnTokens spec (splitSign token) (nameToken naming column) ++ scanned rest := by
  have hmax : isIdentifier "MAX".toList = true := by decide
  have hend : isIdentifier "END".toList = true := by decide
  rw [toList_fragment]
  simp only [List.append_assoc, List.cons_append]
  rw [scanned_comma, scanned_blank (begins_of_isIdentifier hmax _),
    scanned_word hmax (isBreak_cons (by decide) _), scanned_open,
    scanned_spaced (by decide) (begins_quoteName _ _),
    scanned_quoteName _ (isBreak_cons (by decide) _), scanned_blank (begins_cons (by decide) _),
    scanned_equals, scanned_blank (htoken.begins _), htoken.scanned_eq,
    scanned_blank (begins_spaced (by decide) (begins_quoteName _ _)),
    scanned_spaced (by decide) (begins_quoteName _ _),
    scanned_quoteName _ (isBreak_cons (by decide) _), scanned_blank (begins_of_isIdentifier hend _),
    scanned_word hend (isBreak_cons (by decide) _), scanned_close,
    scanned_blank (begins_spaced (by decide) (begins_render hname _)),
    scanned_spaced (by decide) (begins_render hname _), scanned_render hname hrest]
  simp [columnTokens, words]

theorem scanned_footer (spec : Spec) (dialect : Dialect) :
    scanned (footer spec dialect).toList = footerTokens spec dialect := by
  have hclose : IsBreak (if dialect.wrapsQuery then [')'] else []) ∧
      scanned (if dialect.wrapsQuery then [')'] else []) =
        if dialect.wrapsQuery then [.mark ")"] else [] := by
    cases dialect.wrapsQuery with
    | false => exact ⟨isBreak_nil, scanned_nil⟩
    | true =>
      exact ⟨isBreak_cons (by decide) _, (scanned_close []).trans (by rw [scanned_nil]; rfl)⟩
  rw [toList_footer]
  rw [scanned_blank (begins_spaced (by decide) (begins_quoteTable _ _)),
    scanned_spaced (by decide) (begins_quoteTable _ _),
    scanned_quoteTable _ (isBreak_cons (by decide) _),
    scanned_blank (begins_spaced (by decide) (begins_quoteName _ _)),
    scanned_spaced (by decide) (begins_quoteName _ _), scanned_quoteName _ hclose.1, hclose.2]
  simp [footerTokens, words]

/-- The columns and the end of a statement, by the columns that the values have claimed. -/
theorem scanned_columns {spec : Spec} {dialect : Dialect} {naming : ColumnNaming}
    {taken : List String} {values : List Value} {columns : List String}
    (h : Claimed naming taken values columns)
    (hfinite : ∀ x, Value.real x ∈ values → x.isFinite = true) :
    ∃ literals : List Token, List.Forall₂ LiteralToken values literals ∧
      IsBreak ((List.zipWith (fragment spec naming) values columns).flatMap String.toList ++
        (footer spec dialect).toList) ∧
      scanned ((List.zipWith (fragment spec naming) values columns).flatMap String.toList ++
          (footer spec dialect).toList) =
        (List.zipWith (columnTokens spec) (literals.map splitSign)
          (columns.map (nameToken naming))).flatten ++ footerTokens spec dialect := by
  -- a column ends in front of the comma of the next one or of the footer, so the break behind it
  -- is part of what is proved
  induction h with
  | nil =>
    refine ⟨[], .nil, ?_, ?_⟩
    · rw [List.zipWith_nil_left, List.flatMap_nil, List.nil_append, toList_footer]
      exact isBreak_cons (by decide) _
    · rw [List.zipWith_nil_left, List.flatMap_nil, List.nil_append, scanned_footer]
      simp
  | @cons taken value column values columns hname hfresh hrest ih =>
    obtain ⟨literals, hliterals, hbreak, hscanned⟩ :=
      ih fun x hx => hfinite x (List.mem_cons_of_mem _ hx)
    obtain ⟨token, htoken⟩ : ∃ token, LiteralToken value token :=
      exists_literalToken fun x hx => hfinite x (by rw [hx]; exact List.mem_cons_self)
    refine ⟨token :: literals, .cons htoken hliterals, ?_, ?_⟩
    · rw [List.zipWith_cons_cons, List.flatMap_cons, toList_fragment]
      exact isBreak_cons (by decide) _
    · rw [List.zipWith_cons_cons, List.flatMap_cons, List.append_assoc,
        scanned_fragment htoken hname hbreak, hscanned]
      simp

theorem value?_of_literalTokens {values : List Value} {literals : List Token}
    (h : List.Forall₂ LiteralToken values literals) :
    literals.map Token.value? = values.map some := by
  induction h with
  | nil => rfl
  | cons htoken _ ih => rw [List.map_cons, List.map_cons, htoken.value?_eq, ih]

theorem exists_value?_of_literalTokens {values : List Value} {literals : List Token}
    (h : List.Forall₂ LiteralToken values literals) :
    ∀ token ∈ literals, ∃ value, token.value? = some value := by
  intro token htoken
  have hmem := List.mem_map_of_mem (f := Token.value?) htoken
  rw [value?_of_literalTokens h] at hmem
  obtain ⟨value, -, hvalue⟩ := List.mem_map.1 hmem
  exact ⟨value, hvalue.symm⟩

/-- A built statement is scanned as its template, with every sign as a mark of its own. -/
theorem scanned_sql {spec : Spec} {dialect : Dialect} {naming : ColumnNaming} {values : ValueSet}
    {statement : Statement} (h : build spec dialect naming values = .ok statement)
    (hfinite : ∀ x, Value.real x ∈ values.values → x.isFinite = true) :
    ∃ literals : List Token, List.Forall₂ LiteralToken values.values literals ∧
      tokens statement.sql = template spec dialect (literals.map splitSign)
        (statement.columns.map (nameToken naming)) := by
  obtain ⟨literals, hliterals, hbreak, hscanned⟩ :=
    scanned_columns (claimed_of_build h) hfinite
  refine ⟨literals, hliterals, ?_⟩
  rw [tokens_eq, toList_sql_of_build h, scanned_header spec dialect hbreak, hscanned, template,
    List.append_assoc]

/-- A statement that is built starts with `CREATE`. -/
theorem exists_toList_sql {spec : Spec} {dialect : Dialect} {naming : ColumnNaming}
    {values : ValueSet} {statement : Statement}
    (h : build spec dialect naming values = .ok statement) :
    ∃ rest, statement.sql.toList = "CREATE".toList ++ ' ' :: rest := by
  rw [toList_sql_of_build h, toList_header]
  exact ⟨_, rfl⟩

theorem tokens_discoverySql (spec : Spec) : tokens (discoverySql spec) = discoveryTokens spec := by
  have htext : (discoverySql spec).toList = spaced ["SELECT", "DISTINCT"] ++
      ((quoteName spec.pivot).toList ++ ' ' :: (spaced ["FROM"] ++
        ((quoteTable spec.source).toList ++ []))) := by
    unfold discoverySql
    simp [spaced]
  rw [tokens_eq, htext, scanned_spaced (by decide) (begins_quoteName _ _),
    scanned_quoteName _ (isBreak_cons (by decide) _),
    scanned_blank (begins_spaced (by decide) (begins_quoteTable _ _)),
    scanned_spaced (by decide) (begins_quoteTable _ _), scanned_quoteTable _ isBreak_nil,
    scanned_nil]
  simp [discoveryTokens, words]

theorem tokens_dropSql (table : String) :
    tokens (dropSql (quoteTable table)) = dropTokens table := by
  have htext : (dropSql (quoteTable table)).toList =
      spaced ["DROP", "TABLE", "IF", "EXISTS"] ++ ((quoteTable table).toList ++ []) := by
    unfold dropSql
    simp [spaced]
  rw [tokens_eq, htext, scanned_spaced (by decide) (begins_quoteTable _ _),
    scanned_quoteTable _ isBreak_nil, scanned_nil]
  simp [dropTokens, words]

/-! ### Signs -/

theorem joinSigns_cons {token : Token} (h : token ≠ .mark "-") (rest : List Token) :
    joinSigns (token :: rest) = token :: joinSigns rest := by
  rw [joinSigns]
  intro n tail hminus
  exact absurd hminus h

theorem joinSigns_append {left : List Token} (h : Token.mark "-" ∉ left) (right : List Token) :
    joinSigns (left ++ right) = left ++ joinSigns right := by
  induction left with
  | nil => rfl
  | cons token left ih =>
    obtain ⟨hne, hleft⟩ := not_or.1 (mt List.mem_cons.2 h)
    rw [List.cons_append, List.cons_append, ← ih hleft]
    exact joinSigns_cons (Ne.symm hne) _

theorem joinSigns_splitSign {value : Value} {token : Token} (h : token.value? = some value)
    (rest : List Token) : joinSigns (splitSign token ++ rest) = token :: joinSigns rest := by
  rcases token with _ | _ | n | _ | _ | _ | _
  case text => rfl
  case numeral =>
    rcases n with ⟨_ | _, coefficient, exponent, integral⟩ <;> rfl
  all_goals cases h

theorem minus_not_mem_tableTokens (name : String) : Token.mark "-" ∉ tableTokens name := by
  unfold tableTokens
  generalize splitDots name.toList = parts
  induction parts with
  | nil => simp
  | cons part parts ih =>
    rcases parts with _ | ⟨next, parts⟩
    · simp
    · simp at ih ⊢
      exact ih

theorem minus_not_mem_header (spec : Spec) (dialect : Dialect) :
    Token.mark "-" ∉ headerTokens spec dialect := by
  have htable := minus_not_mem_tableTokens spec.target
  cases hwraps : dialect.wrapsQuery <;> simp [headerTokens, words, hwraps, htable]

theorem minus_not_mem_footer (spec : Spec) (dialect : Dialect) :
    Token.mark "-" ∉ footerTokens spec dialect := by
  have htable := minus_not_mem_tableTokens spec.source
  cases hwraps : dialect.wrapsQuery <;> simp [footerTokens, words, hwraps, htable]

theorem joinSigns_eq_self {tokens : List Token} (h : Token.mark "-" ∉ tokens) :
    joinSigns tokens = tokens := by
  have := joinSigns_append h []
  rwa [List.append_nil, joinSigns, List.append_nil] at this

theorem joinSigns_columnTokens (spec : Spec) {value : Value} {token name : Token}
    (h : token.value? = some value) (hname : name ≠ .mark "-") (rest : List Token) :
    joinSigns (columnTokens spec (splitSign token) name ++ rest) =
      columnTokens spec [token] name ++ joinSigns rest := by
  have hbefore : Token.mark "-" ∉ [.mark ",", .word "MAX", .mark "("] ++ words ["CASE", "WHEN"] ++
      [.name spec.pivot, .mark "="] := by simp [words]
  have hafter : Token.mark "-" ∉ words ["THEN"] ++ [.name spec.value] ++ words ["END"] ++
      [.mark ")"] ++ words ["AS"] ++ [name] := by simp [words, hname.symm]
  have hassoc (literal : List Token) : columnTokens spec literal name ++ rest =
      ([.mark ",", .word "MAX", .mark "("] ++ words ["CASE", "WHEN"] ++
        [.name spec.pivot, .mark "="]) ++ (literal ++ ((words ["THEN"] ++ [.name spec.value] ++
          words ["END"] ++ [.mark ")"] ++ words ["AS"] ++ [name]) ++ rest)) := by
    simp only [columnTokens, List.append_assoc]
  -- the only minus of a column is that of its literal
  rw [hassoc, joinSigns_append hbefore, joinSigns_splitSign h, joinSigns_append hafter]
  simp only [columnTokens, List.append_assoc, List.cons_append, List.nil_append]

theorem joinSigns_template (spec : Spec) (dialect : Dialect) {literals names : List Token}
    (hliterals : ∀ token ∈ literals, ∃ value, token.value? = some value)
    (hnames : Token.mark "-" ∉ names) :
    joinSigns (template spec dialect (literals.map splitSign) names) =
      template spec dialect (literals.map fun token => [token]) names := by
  have hcolumns (rest : List Token) :
      joinSigns ((List.zipWith (columnTokens spec) (literals.map splitSign) names).flatten ++
          rest) =
        (List.zipWith (columnTokens spec) (literals.map fun token => [token]) names).flatten ++
          joinSigns rest := by
    induction literals generalizing names with
    | nil => rfl
    | cons token literals ih =>
      rcases names with _ | ⟨name, names⟩
      · rfl
      obtain ⟨hname, hnames⟩ := not_or.1 (mt List.mem_cons.2 hnames)
      obtain ⟨value, hvalue⟩ := hliterals token List.mem_cons_self
      have hrest := ih (fun t ht => hliterals t (List.mem_cons_of_mem _ ht)) hnames
      simp only [List.map_cons, List.zipWith_cons_cons, List.flatten_cons, List.append_assoc]
      rw [joinSigns_columnTokens spec hvalue (Ne.symm hname), hrest]
  rw [template, List.append_assoc, joinSigns_append (minus_not_mem_header spec dialect), hcolumns,
    joinSigns_eq_self (minus_not_mem_footer spec dialect), template, List.append_assoc]

/-! ### Main statement -/

/-- **Texts stay in their places.** A built statement is scanned as the template with one group of
tokens per value, in which every literal stands for its value and every name for its column; and
the other two statements of a run are scanned as theirs. -/
theorem tokens_of_statements (spec : Spec) :
    (∀ (dialect : Dialect) (naming : ColumnNaming) (values : ValueSet) (statement : Statement),
      build spec dialect naming values = .ok statement →
      (∀ x, Value.real x ∈ values.values → x.isFinite = true) →
      ∃ literals : List Token, literals.map Token.value? = values.values.map some ∧
        statement.columns.length = values.values.length ∧
        joinSigns (tokens statement.sql) =
          template spec dialect (literals.map fun token => [token])
            (statement.columns.map (nameToken naming))) ∧
    joinSigns (tokens (discoverySql spec)) = discoveryTokens spec ∧
    joinSigns (tokens (dropSql (quoteTable spec.target))) = dropTokens spec.target := by
  refine ⟨fun dialect naming values statement hbuild hfinite => ?_, ?_, ?_⟩
  · obtain ⟨literals, hliterals, hscanned⟩ := scanned_sql hbuild hfinite
    have hvalues := value?_of_literalTokens hliterals
    have hnames : Token.mark "-" ∉ statement.columns.map (nameToken naming) := by
      rw [List.mem_map]
      rintro ⟨column, -, hminus⟩
      cases naming <;> cases hminus
    refine ⟨literals, hvalues, (claimed_of_build hbuild).length_eq, ?_⟩
    rw [hscanned]
    exact joinSigns_template spec dialect (exists_value?_of_literalTokens hliterals) hnames
  · rw [tokens_discoverySql]
    refine joinSigns_eq_self ?_
    have htable := minus_not_mem_tableTokens spec.source
    simp [discoveryTokens, words, htable]
  · rw [tokens_dropSql]
    refine joinSigns_eq_self ?_
    have htable := minus_not_mem_tableTokens spec.target
    simp [dropTokens, words, htable]

/-- A spec whose names are full of marks. -/
def markedSpec : Spec := ⟨"temp.w\"", "s;--", "id\"", "k'", "amt"⟩

/-- Values with a quote of each kind, with a sign and with a fraction. -/
def markedValues : ValueSet :=
  ⟨[.text "it's", .text "a\"b", .integer (-5), .real (.ofRatio false 1 10)], 0⟩

/-- The statement for them. -/
def markedStatement : Statement where
  fragments := header markedSpec .postgres ::
    List.zipWith (fragment markedSpec .quoted) markedValues.values ["it's", "a\"b", "-5", "0.1"] ++
      [footer markedSpec .postgres]
  columns := ["it's", "a\"b", "-5", "0.1"]

theorem tokens_of_statements_marked :
    build markedSpec .postgres .quoted markedValues = .ok markedStatement ∧
      (∀ x, Value.real x ∈ markedValues.values → x.isFinite = true) ∧
      ∃ literals : List Token, literals.map Token.value? = markedValues.values.map some ∧
        markedStatement.columns.length = markedValues.values.length ∧
        joinSigns (tokens markedStatement.sql) =
          template markedSpec .postgres (literals.map fun token => [token])
            (markedStatement.columns.map (nameToken .quoted)) := by
  have hcolumns : outputColumns markedSpec .quoted markedValues.values =
      .ok ["it's", "a\"b", "-5", "0.1"] := by decide +kernel
  have hbuild : build markedSpec .postgres .quoted markedValues = .ok markedStatement :=
    build_eq_ok_iff.2 ⟨_, hcolumns, rfl⟩
  have hfinite : ∀ x, Value.real x ∈ markedValues.values → x.isFinite = true := by
    intro x hx
    obtain rfl : x = .ofRatio false 1 10 := by simpa [markedValues] using hx
    decide +kernel
  exact ⟨hbuild, hfinite, (tokens_of_statements markedSpec).1 _ _ _ _ hbuild hfinite⟩

end Crosstab.Sql

import Crosstab.Decimal.Numeral
import Crosstab.Text.Blank
import Crosstab.Text.Hexadecimal
import Crosstab.Text.Quoted

/-!
# SQL tokens

The lexical form of SQL: quoted names and texts, numerals, bare words, and marks. Blanks and
comments separate tokens and mean nothing; inside quotes they are part of the content. There are
no backslash escapes, and a minus is a mark of its own.

    sql text ──Lexeme.scan──▶ lexemes (a token and where it stands)

The longest token that fits is taken. A text that stops being SQL at some point, because a quote
is never closed or a character has no place outside quotes, ends in a `broken` token there.
-/

namespace Crosstab.Sql

open Decimal (Numeral isDigit)

/-- A token of SQL. -/
inductive Token where
  /-- A name in double quotes, grave accents or brackets. -/
  | name (content : String)
  /-- A text in single quotes. -/
  | text (content : String)
  | numeral (n : Numeral)
  /-- A bare word: a keyword or a name. -/
  | word (spelling : String)
  | mark (written : String)
  /-- Bytes, a parameter, or a numeral that is hexadecimal or has separators among its digits. -/
  | other
  /-- What is no token. -/
  | broken
deriving DecidableEq, Repr

/-- A token with the text from it on and the text behind it. -/
structure Lexeme where
  token : Token
  start : List Char
  behind : List Char

/-- The first character has a property. -/
def startsWith (p : Char → Bool) (cs : List Char) : Bool := cs.head?.any p

/-! ### Words -/

/-- A character that can start a bare word: a letter, an underscore or anything beyond ASCII. -/
def isWordStart (c : Char) : Bool := c.isAlpha || c == '_' || decide (127 < c.toNat)

/-- A character that can stand in a bare word. -/
def isWordChar (c : Char) : Bool := isWordStart c || isDigit c || c == '$'

/-! ### Numerals -/

/-- A digit, or the separator that may stand among digits. -/
def isDigitOrSeparator (c : Char) : Bool := isDigit c || c == '_'

/-- A hexadecimal digit. -/
def isHexDigit (c : Char) : Bool := (Text.Hexadecimal.digit? c).isSome

/-- What follows the digits at the start. -/
def pastDigits (cs : List Char) : List Char := cs.dropWhile isDigitOrSeparator

/-- What follows the fraction at the start, if there is one. -/
def pastFraction : List Char → List Char
  | '.' :: cs => pastDigits cs
  | cs => cs

/-- What follows the exponent at the start, if there is one; `e` counts only in front of digits. -/
def pastExponent : List Char → List Char
  | [] => []
  | c :: cs =>
    if (c = 'e' ∨ c = 'E') ∧ startsWith isDigit (Numeral.takeSign cs).2 then
      pastDigits (Numeral.takeSign cs).2
    else c :: cs

/-- What follows a numeral that is not hexadecimal, behind its first character. -/
def pastDecimal (first : Char) (rest : List Char) : List Char :=
  if first = '.' then pastExponent (pastDigits rest)
  else pastExponent (pastFraction (pastDigits rest))

/-- What follows a numeral, behind its first character. -/
def pastNumeral (first : Char) (rest : List Char) : List Char :=
  match rest with
  | x :: digit :: digits =>
    if first = '0' ∧ (x = 'x' ∨ x = 'X') ∧ isHexDigit digit then
      digits.dropWhile fun c => isHexDigit c || c == '_'
    else pastDecimal first rest
  | _ => pastDecimal first rest

/-- Reads a numeral; one that a word character follows is none. -/
def scanNumeral (first : Char) (rest : List Char) : Token × List Char :=
  let behind := pastNumeral first rest
  if startsWith isWordChar behind then (.broken, behind.dropWhile isWordChar)
  else
    match Numeral.unsigned? false (first :: rest.take (rest.length - behind.length)) with
    | some n => (.numeral n, behind)
    | none => (.other, behind)

/-! ### Quotes and brackets -/

/-- Reads what stands in quotes, behind the opening one. -/
def scanQuoted (token : String → Token) (mark : Char) (rest : List Char) : Token × List Char :=
  match Text.Quoted.scanBody mark rest with
  | some (content, behind) => (token (String.ofList content), behind)
  | none => (.broken, [])

/-- Reads a name in brackets, behind the opening one. -/
def scanBracketed (rest : List Char) : Token × List Char :=
  match rest.dropWhile (· != ']') with
  | _ :: behind => (.name (String.ofList (rest.takeWhile (· != ']'))), behind)
  | [] => (.broken, [])

/-- Reads bytes, behind the opening quote: pairs of hexadecimal digits. -/
def scanBytes (rest : List Char) : Token × List Char :=
  match rest.dropWhile isHexDigit with
  | '\'' :: behind =>
    (if (rest.takeWhile isHexDigit).length % 2 = 0 then .other else .broken, behind)
  | fault => (.broken, (fault.dropWhile (· != '\'')).drop 1)

/-! ### Parameters -/

/-- Reads the part of a parameter in parentheses, behind the opening one. -/
def scanParenthesized (rest : List Char) : Token × List Char :=
  match rest.dropWhile fun c => !Text.isAsciiBlank c && c != ')' with
  | ')' :: behind => (.other, behind)
  | fault => (.broken, fault)

/-- Reads the name of a parameter; pairs of colons join its parts, and a part in parentheses ends
it. `named` tells whether something of the name has been read. -/
def scanParameter : Bool → List Char → Token × List Char
  | named, [] => (if named then .other else .broken, [])
  | named, ':' :: ':' :: rest => scanParameter named rest
  | named, c :: rest =>
    if isWordChar c then scanParameter true rest
    else if c = '(' ∧ named then scanParenthesized rest
    else (if named then .other else .broken, c :: rest)

/-! ### Marks -/

/-- The marks, each in front of its beginnings. -/
def marks : List String :=
  ["->>", "->", "==", "<=", "<>", "<<", ">=", ">>", "!=", "||", "(", ")", ";", "+", "*", "/", "%",
    ",", "&", "~", ".", "-", "=", "<", ">", "|"]

/-- Reads a mark; a character that starts none is no token. -/
def scanMark (c : Char) (rest : List Char) : Token × List Char :=
  match marks.find? fun mark => mark.toList.isPrefixOf (c :: rest) with
  | some mark => (.mark mark, rest.drop (mark.length - 1))
  | none => (.broken, rest)

/-! ### One token -/

/-- Reads the token that starts with a character. -/
def scanToken (c : Char) (rest : List Char) : Token × List Char :=
  if c = '"' ∨ c = '\x60' then scanQuoted .name c rest
  else if c = '\'' then scanQuoted .text c rest
  else if c = '[' then scanBracketed rest
  else if isDigit c || (c == '.' && startsWith isDigit rest) then scanNumeral c rest
  else if (c = 'x' ∨ c = 'X') ∧ startsWith (· == '\'') rest then scanBytes (rest.drop 1)
  else if isWordStart c then
    (.word (String.ofList (c :: rest.takeWhile isWordChar)), rest.dropWhile isWordChar)
  else if c = '?' then (.other, rest.dropWhile isDigit)
  else if c = '$' ∨ c = '@' ∨ c = ':' ∨ c = '#' then scanParameter false rest
  else scanMark c rest

/-! ### Between tokens -/

/-- A blank that can follow a token: any of ASCII except the vertical tab. -/
def isOuterBlank (c : Char) : Bool := Text.isAsciiBlank c && c != '\x0b'

/-- Where in a text between tokens the reading stands. -/
inductive Gap where
  /-- Behind a token, a comment or a byte order mark. -/
  | between
  /-- Behind a blank, which any blank may follow. -/
  | blanks
  /-- In a comment that ends with its line. -/
  | lineComment
  /-- In a comment that ends with `*/`. -/
  | blockComment
deriving DecidableEq

/-- Skips blanks, comments and byte order marks. What opens a comment at the end of a text opens
none if the comment would have to be closed. -/
def skipGap : Gap → List Char → List Char
  | _, [] => []
  | .lineComment, c :: rest => skipGap (if c = '\n' then .blanks else .lineComment) rest
  | .blockComment, '*' :: '/' :: rest => skipGap .between rest
  | .blockComment, _ :: rest => skipGap .blockComment rest
  | _, '-' :: '-' :: rest => skipGap .lineComment rest
  | _, '/' :: '*' :: c :: rest => skipGap .blockComment (c :: rest)
  | gap, c :: rest =>
    if isOuterBlank c || (gap == .blanks && Text.isAsciiBlank c) then skipGap .blanks rest
    else if c = '\ufeff' then skipGap .between rest
    else c :: rest

/-! ### Progress -/

theorem length_pastDigits_le (cs : List Char) : (pastDigits cs).length ≤ cs.length :=
  Text.length_dropWhile_le isDigitOrSeparator cs

theorem length_pastFraction_le (cs : List Char) : (pastFraction cs).length ≤ cs.length := by
  unfold pastFraction
  split
  · next cs =>
    have := length_pastDigits_le cs
    simp only [List.length_cons]
    omega
  · exact Nat.le_refl _

theorem length_pastExponent_le (cs : List Char) : (pastExponent cs).length ≤ cs.length := by
  unfold pastExponent
  split
  · exact Nat.le_refl _
  · next c cs =>
    split
    · have := length_pastDigits_le (Numeral.takeSign cs).2
      have := Numeral.length_takeSign_le cs
      simp only [List.length_cons]
      omega
    · exact Nat.le_refl _

theorem length_pastDecimal_le (first : Char) (rest : List Char) :
    (pastDecimal first rest).length ≤ rest.length := by
  have hdigits := length_pastDigits_le rest
  unfold pastDecimal
  split
  · have := length_pastExponent_le (pastDigits rest)
    omega
  · have := length_pastFraction_le (pastDigits rest)
    have := length_pastExponent_le (pastFraction (pastDigits rest))
    omega

theorem length_pastNumeral_le (first : Char) (rest : List Char) :
    (pastNumeral first rest).length ≤ rest.length := by
  unfold pastNumeral
  split
  · next x digit digits =>
    split
    · have := Text.length_dropWhile_le (fun c => isHexDigit c || c == '_') digits
      simp only [List.length_cons]
      omega
    · exact length_pastDecimal_le _ _
  · exact length_pastDecimal_le _ _

theorem length_scanNumeral_le (first : Char) (rest : List Char) :
    (scanNumeral first rest).2.length ≤ rest.length := by
  have hpast := length_pastNumeral_le first rest
  unfold scanNumeral
  simp only
  split
  · exact Nat.le_trans (Text.length_dropWhile_le isWordChar _) hpast
  · split <;> exact hpast

theorem length_scanQuoted_le (token : String → Token) (mark : Char) (rest : List Char) :
    (scanQuoted token mark rest).2.length ≤ rest.length := by
  unfold scanQuoted
  split
  · next h => exact Nat.le_of_lt (Text.Quoted.length_scanBody_lt h)
  · exact Nat.zero_le _

theorem length_scanBracketed_le (rest : List Char) :
    (scanBracketed rest).2.length ≤ rest.length := by
  have hrest := Text.length_dropWhile_le (· != ']') rest
  unfold scanBracketed
  split
  · next h =>
    rw [h] at hrest
    exact Nat.le_of_succ_le hrest
  · exact Nat.zero_le _

theorem length_scanBytes_le (rest : List Char) : (scanBytes rest).2.length ≤ rest.length := by
  have hrest := Text.length_dropWhile_le isHexDigit rest
  unfold scanBytes
  split
  · next h =>
    rw [h] at hrest
    exact Nat.le_of_succ_le hrest
  · have := Text.length_dropWhile_le (· != '\'') (rest.dropWhile isHexDigit)
    simp only [List.length_drop]
    omega

theorem length_scanParenthesized_le (rest : List Char) :
    (scanParenthesized rest).2.length ≤ rest.length := by
  have hrest := Text.length_dropWhile_le (fun c => !Text.isAsciiBlank c && c != ')') rest
  unfold scanParenthesized
  split
  · next h =>
    rw [h] at hrest
    exact Nat.le_of_succ_le hrest
  · exact hrest

theorem length_scanParameter_le (named : Bool) (rest : List Char) :
    (scanParameter named rest).2.length ≤ rest.length := by
  fun_induction scanParameter named rest with
  | case1 => simp
  | case2 named rest ih => simp only [List.length_cons]; omega
  | case3 named c rest _ _ ih => simp only [List.length_cons]; omega
  | case4 named c rest =>
    have := length_scanParenthesized_le rest
    simp only [List.length_cons]
    omega
  | case5 => exact Nat.le_refl _

theorem length_scanMark_le (c : Char) (rest : List Char) :
    (scanMark c rest).2.length ≤ rest.length := by
  unfold scanMark
  split
  · simp only [List.length_drop]; omega
  · exact Nat.le_refl _

theorem length_scanToken_le (c : Char) (rest : List Char) :
    (scanToken c rest).2.length ≤ rest.length := by
  unfold scanToken
  split
  · exact length_scanQuoted_le _ _ _
  · split
    · exact length_scanQuoted_le _ _ _
    · split
      · exact length_scanBracketed_le _
      · split
        · exact length_scanNumeral_le _ _
        · split
          · have := length_scanBytes_le (rest.drop 1)
            simp only [List.length_drop] at this
            omega
          · split
            · exact Text.length_dropWhile_le isWordChar rest
            · split
              · exact Text.length_dropWhile_le isDigit rest
              · split
                · exact length_scanParameter_le _ _
                · exact length_scanMark_le _ _

theorem length_skipGap_le (gap : Gap) (cs : List Char) : (skipGap gap cs).length ≤ cs.length := by
  fun_induction skipGap gap cs with
  | case1 => simp
  | case2 c rest ih => simp only [List.length_cons]; omega
  | case3 rest ih => simp only [List.length_cons]; omega
  | case4 c rest _ ih => simp only [List.length_cons]; omega
  | case5 gap rest _ _ ih => simp only [List.length_cons]; omega
  | case6 gap c rest _ _ ih => simp only [List.length_cons] at *; omega
  | case7 gap c rest _ _ _ _ _ _ ih => simp only [List.length_cons]; omega
  | case8 gap rest _ _ _ _ _ _ ih => simp only [List.length_cons]; omega
  | case9 => exact Nat.le_refl _

/-! ### All tokens -/

/-- The lexemes of a text, up to the first that is no token. -/
def Lexeme.scan (cs : List Char) : List Lexeme :=
  match _h : skipGap .between cs with
  | [] => []
  | c :: rest =>
    let lexeme : Lexeme := ⟨(scanToken c rest).1, c :: rest, (scanToken c rest).2⟩
    if lexeme.token = .broken then [lexeme] else lexeme :: Lexeme.scan (scanToken c rest).2
termination_by cs.length
decreasing_by
  have htoken := length_scanToken_le c rest
  have hskip := length_skipGap_le .between cs
  rw [_h] at hskip
  simp only [List.length_cons] at hskip
  omega

/-- The tokens of a text. -/
def tokens (sql : String) : List Token := (Lexeme.scan sql.toList).map Lexeme.token

/-- A lexeme as it is written. -/
def Lexeme.written (lexeme : Lexeme) : String :=
  String.ofList (lexeme.start.take (lexeme.start.length - lexeme.behind.length))

end Crosstab.Sql

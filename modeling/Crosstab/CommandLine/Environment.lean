import Crosstab.Text.Alphanumeric
import Crosstab.Text.Blank

/-!
# Environments

The variables of a process, and the file that can add to them. Such a file assigns a variable a
line, `NAME=value`, perhaps behind `export`. A variable that is set already keeps its value, so
the first assignment counts, and the reading ends at the first line that is no assignment.

    text ──takeLine──▶ lines ──readLine──▶ assignments ──add──▶ environment

Values may be quoted in parts. In double quotes and outside of quotes a backslash keeps the
character behind it, and a dollar stands before the name of a variable whose value is meant; in
single quotes every character stands for itself. A quoted part may go on in the next line.
Outside of quotes a blank ends the value, and only a comment may follow.
-/

namespace Crosstab.CommandLine

/-- Variables with their values. -/
structure Environment where
  lookup : String → Option String

/-- No variable is set. -/
def Environment.empty : Environment := ⟨fun _ => none⟩

/-- Sets a variable, unless it is set already. -/
def Environment.add (environment : Environment) (name value : String) : Environment :=
  ⟨fun other =>
    match environment.lookup other with
    | some kept => some kept
    | none => if other = name then some value else none⟩

namespace Assignment

/-! ### Lines -/

/-- What the end of a line would mean. -/
inductive Mode where
  /-- The end of the assignment. -/
  | bare
  /-- Behind a blank, where a comment may start. -/
  | blank
  | escaped
  | double
  | doubleEscaped
  | single
  | singleEscaped
deriving DecidableEq

/-- The mode behind a character. -/
def Mode.next : Mode → Char → Mode
  | .double, c => if c = '\\' then .doubleEscaped else if c = '"' then .bare else .double
  | .doubleEscaped, _ => .double
  | .single, c => if c = '\\' then .singleEscaped else if c = '\'' then .bare else .single
  | .singleEscaped, _ => .single
  | .escaped, _ => .bare
  | mode, c =>
    if c = '\\' then .escaped
    else if c = '"' then .double
    else if c = '\'' then .single
    else if mode = .bare ∧ Text.isBlank c = true ∧ c ≠ '\n' ∧ c ≠ '\r' then .blank
    else .bare

/-- The rest of the text behind the current line. -/
def nextLine : List Char → List Char
  | [] => []
  | c :: cs => if c = '\n' then cs else nextLine cs

/-- Takes the characters of an assignment up to the end of its last line, without a comment; an
assignment that the end of the text cuts off is none. -/
def takeLine : Mode → List Char → Option (List Char × List Char)
  | mode, [] => if mode = .bare then some ([], []) else none
  | mode, c :: cs =>
    if mode = .blank ∧ c = '#' then some ([], nextLine cs)
    else if mode.next c = .bare ∧ c = '\n' then some ([], cs)
    else (takeLine (mode.next c) cs).map fun r => (c :: r.1, r.2)

/-- The line is a comment as a whole. -/
def isComment (cs : List Char) : Bool :=
  ((cs.takeWhile (· != '\n')).dropWhile Text.isBlank).head? == some '#'

/-! ### Values -/

/-- What a character of a value is read as. -/
inductive Place where
  | bare
  | double
  | single
  /-- Behind a backslash, in double quotes or not. -/
  | escape (quoted : Bool)
  /-- In the name of a variable, without or with braces around it. -/
  | reference (quoted braced : Bool) (name : List Char)
  /-- Behind the value. -/
  | behind
deriving DecidableEq

/-- The place that a reference to a variable or an escape returns to. -/
def Place.outside (quoted : Bool) : Place := if quoted then .double else .bare

/-- The characters that a backslash keeps. -/
def escape? (c : Char) : Option Char :=
  if c = 'n' then some '\n' else if c ∈ ['\\', '\'', '"', '$', ' '] then some c else none

/-- A value in the making. -/
structure Draft where
  place : Place
  /-- The characters of the value so far, last first. -/
  text : List Char

/-- Reads a character of a value; `valueOf` gives the values that names refer to. -/
def Draft.step (valueOf : String → String) (draft : Draft) (c : Char) : Option Draft :=
  let unescaped (quoted : Bool) (text : List Char) : Option Draft :=
    if c = '$' then some ⟨.reference quoted false [], text⟩
    else if c = '\\' then some ⟨.escape quoted, text⟩
    else if c = '"' then some ⟨.outside !quoted, text⟩
    else if quoted then some ⟨.double, c :: text⟩
    else if c = '\'' then some ⟨.single, text⟩
    else if c = ' ' ∨ c = '\t' then some ⟨.behind, text⟩
    else some ⟨.bare, c :: text⟩
  match draft.place with
  | .behind => if c = ' ' ∨ c = '\t' then some draft else none
  | .escape quoted => do return ⟨.outside quoted, (← escape? c) :: draft.text⟩
  | .single => if c = '\'' then some ⟨.bare, draft.text⟩ else some ⟨.single, c :: draft.text⟩
  | .reference quoted true name =>
    if c = '}' then
      some ⟨.outside quoted, (valueOf (String.ofList name.reverse)).toList.reverse ++ draft.text⟩
    else some ⟨.reference quoted true (c :: name), draft.text⟩
  | .reference quoted false name =>
    if Text.isAlphanumeric c then some ⟨.reference quoted false (c :: name), draft.text⟩
    else if c = '{' ∧ name = [] then some ⟨.reference quoted true [], draft.text⟩
    else
      let text := (valueOf (String.ofList name.reverse)).toList.reverse ++ draft.text
      if c = '$' then some ⟨.reference quoted false [], text⟩
      else some ⟨.outside quoted, c :: text⟩
  | .double => unescaped true draft.text
  | .bare => unescaped false draft.text

/-- The value of a draft at its end. -/
def Draft.value? (valueOf : String → String) (draft : Draft) : Option (List Char) :=
  match draft.place with
  | .bare => some draft.text.reverse
  | .behind => some draft.text.reverse
  | .escape false => some draft.text.reverse
  | .reference false false name =>
    some (draft.text.reverse ++ (valueOf (String.ofList name.reverse)).toList)
  | _ => none

/-- Reads a value; a comment behind it is not part of it. -/
def readValue (valueOf : String → String) (draft : Draft) : List Char → Option (List Char)
  | [] => draft.value? valueOf
  | c :: cs =>
    if draft.place = .behind ∧ c = '#' then draft.value? valueOf
    else do readValue valueOf (← draft.step valueOf c) cs

/-! ### Assignments -/

/-- A character that a name can start with. -/
def isNameStart (c : Char) : Bool := c.isAlpha || c == '_'

/-- A character of a name. -/
def isNameChar (c : Char) : Bool := c.isAlphanum || c == '_' || c == '.'

/-- Reads a name and the blanks behind it. -/
def readName : List Char → Option (String × List Char)
  | [] => none
  | c :: cs =>
    if isNameStart c then
      some (String.ofList (c :: cs.takeWhile isNameChar),
        (cs.dropWhile isNameChar).dropWhile Text.isBlank)
    else none

/-- Reads the part from the equals sign on. -/
def readAssigned (valueOf : String → String) (name : String) :
    List Char → Option (String × String)
  | '=' :: cs =>
    match cs.dropWhile Text.isBlank with
    | [] => some (name, "")
    | '#' :: _ => some (name, "")
    | value => do return (name, String.ofList (← readValue valueOf ⟨.bare, []⟩ value))
  | _ => none

/-- Reads the assignment of a line that has one. -/
def readLine (valueOf : String → String) (line : List Char) : Option (String × String) := do
  let (name, rest) ← readName line
  match name, rest with
  | name, '=' :: rest => readAssigned valueOf name ('=' :: rest)
  | "export", rest => do
    let (name, rest) ← readName rest
    readAssigned valueOf name rest
  | _, _ => none

/-! ### Progress -/

theorem length_nextLine_le (cs : List Char) : (nextLine cs).length ≤ cs.length := by
  induction cs with
  | nil => exact Nat.le_refl _
  | cons c cs ih =>
    rw [nextLine]
    split <;> simp only [List.length_cons] <;> omega

theorem length_nextLine_lt (c : Char) (cs : List Char) :
    (nextLine (c :: cs)).length < (c :: cs).length := by
  have := length_nextLine_le cs
  rw [nextLine]
  split <;> simp only [List.length_cons] <;> omega

theorem length_takeLine_le {mode : Mode} {cs : List Char} {r : List Char × List Char}
    (h : takeLine mode cs = some r) : r.2.length ≤ cs.length - 1 := by
  induction cs generalizing mode r with
  | nil =>
    rw [takeLine] at h
    split at h <;> cases h
    exact Nat.le_refl _
  | cons c cs ih =>
    rw [takeLine] at h
    simp only [List.length_cons, Nat.add_sub_cancel]
    split at h
    · cases h
      exact length_nextLine_le cs
    · split at h
      · cases h
        exact Nat.le_refl _
      · obtain ⟨u, hu, rfl⟩ := Option.map_eq_some_iff.1 h
        have hrest := ih hu
        exact Nat.le_trans hrest (Nat.sub_le _ _)

end Assignment

/-! ### Files -/

namespace Environment

open Assignment

/-- The value that a reference to a variable stands for. -/
def value (environment : Environment) (name : String) : String :=
  (environment.lookup name).getD ""

/-- Adds the assignments of a text. -/
def addLines (environment : Environment) : List Char → Environment
  | [] => environment
  | c :: cs =>
    if isComment (c :: cs) then addLines environment (nextLine (c :: cs))
    else
      match _h : takeLine .bare (c :: cs) with
      | none => environment
      | some (line, rest) =>
        match Text.trimmed line with
        | [] => addLines environment rest
        | '#' :: _ => addLines environment rest
        | line =>
          match readLine environment.value line with
          | none => environment
          | some (name, value) => addLines (environment.add name value) rest
termination_by cs => cs.length
decreasing_by
  · exact length_nextLine_lt c cs
  all_goals exact Nat.lt_succ_of_le (length_takeLine_le _h)

/-- Adds the assignments of a file, which may start with a byte order mark. -/
def addFile (environment : Environment) (text : String) : Environment :=
  match text.toList with
  | '\uFEFF' :: cs => environment.addLines cs
  | cs => environment.addLines cs

/-- Every name that the assignments of a text may set or refer to; between braces stands any. -/
def mentioned (text : String) : List String :=
  let isBrace (c : Char) : Bool := c == '{' || c == '}'
  Text.words (text.map fun c => if isNameChar c then c else ' ') ++
    Text.words (text.map fun c => if Text.isAlphanumeric c then c else ' ') ++
    (text.map fun c => if isBrace c then '\n' else c).splitOn "\n"

end Environment

end Crosstab.CommandLine

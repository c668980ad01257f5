import Crosstab.Proofs.Text.Quoted
import Crosstab.Sql.Quote
import Mathlib.Logic.Function.Basic

/-!
# Quoting read back

A quoted name, literal or table name can be read wherever it stands. Its content comes back,
whatever quote marks and points it is made of, and the text behind it is left as it is. All that is
asked of this text is that it does not go on where the quoted one ends: a further mark would make a
pair with the closing one, and a point behind a table name would lead to one more part.

    name, rest ──quoteName ++──▶ text ──readQuoted '"'──▶ name, rest
    name, rest ──quoteTable ++─▶ text ──readParts───────▶ parts of name, rest

Nothing else is read so. Each reader takes off a text what the writer beside it wrote there, and so
no two names are quoted alike.
-/

namespace Crosstab.Sql

open Text.Quoted (enclose scan)

/-! ### Parts between points -/

/-- A name is cut at every point and nowhere else. -/
theorem splitDots_eq_splitOn (cs : List Char) : splitDots cs = cs.splitOn '.' := by
  induction cs with
  | nil => simp [splitDots]
  | cons c cs ih =>
    obtain ⟨part, parts, hparts⟩ := List.exists_cons_of_ne_nil (List.splitOn_ne_nil '.' cs)
    rw [List.splitOn_cons_eq_if_modifyHead, splitDots, ih, hparts]
    simp

theorem splitDots_ne_nil (cs : List Char) : splitDots cs ≠ [] := by
  rw [splitDots_eq_splitOn]
  exact List.splitOn_ne_nil '.' cs

theorem mem_splitDots {c : Char} (hpoint : c ≠ '.') (cs : List Char) :
    (∃ part ∈ splitDots cs, c ∈ part) ↔ c ∈ cs := by
  induction cs with
  | nil => simp [splitDots]
  | cons d ds ih =>
    unfold splitDots
    split
    · next heq => simp [ih, heq, hpoint]
    · rcases hparts : splitDots ds with _ | ⟨part, parts⟩
      · exact absurd hparts (splitDots_ne_nil ds)
      · rw [hparts] at ih
        simp only [List.mem_cons, exists_eq_or_imp] at ih ⊢
        rw [← ih, or_assoc]

/-! ### Written forms -/

theorem toList_quoteName (name : String) :
    (quoteName name).toList = enclose '"' name.toList := String.toList_ofList

theorem toList_quoteText (text : String) :
    (quoteText text).toList = enclose '\'' text.toList := String.toList_ofList

/-- The parts of a table name as they are written. -/
def partsText (parts : List (List Char)) : List Char :=
  List.intercalate ['.'] (parts.map (enclose '"'))

theorem toList_quoteTable (name : String) :
    (quoteTable name).toList = partsText (splitDots name.toList) := String.toList_ofList

theorem partsText_singleton (part : List Char) : partsText [part] = enclose '"' part := by
  simp [partsText]

theorem partsText_cons_cons (part next : List Char) (parts : List (List Char)) :
    partsText (part :: next :: parts) = enclose '"' part ++ '.' :: partsText (next :: parts) := by
  simp [partsText, List.intercalate]

theorem partsText_eq_quote {parts : List (List Char)} (h : parts ≠ []) :
    ∃ tail, partsText parts = '"' :: tail := by
  rcases parts with _ | ⟨part, _ | ⟨next, parts⟩⟩
  · exact absurd rfl h
  · exact ⟨_, partsText_singleton part⟩
  · exact ⟨_, partsText_cons_cons part next parts⟩

theorem mem_partsText {c : Char} (hquote : c ≠ '"') (hpoint : c ≠ '.')
    (parts : List (List Char)) : c ∈ partsText parts ↔ ∃ part ∈ parts, c ∈ part := by
  induction parts with
  | nil => simp [partsText, List.intercalate]
  | cons part parts ih =>
    rcases parts with _ | ⟨next, parts⟩
    · simp [partsText_singleton, Text.Quoted.mem_enclose hquote]
    · rw [partsText_cons_cons, List.mem_append, List.mem_cons, Text.Quoted.mem_enclose hquote]
      simp only [ih, hpoint, false_or, List.mem_cons, exists_eq_or_imp]

/-! ### Reading parts -/

/-- Reads names in double quotes with a point between one and the next: the names, and what follows
the last of them. -/
def scanParts (cs : List Char) : Option (List (List Char) × List Char) :=
  match _h : scan '"' cs with
  | none => none
  | some (part, '.' :: behind) => (scanParts behind).map fun read => (part :: read.1, read.2)
  | some (part, behind) => some ([part], behind)
termination_by cs.length
decreasing_by
  have hbehind := Text.Quoted.length_scan_lt _h
  simp only [List.length_cons] at hbehind
  omega

section Parts

variable {cs part behind rest : List Char} {parts : List (List Char)}

/-- A point behind a name leads to one more. -/
theorem scanParts_of_point (h : scan '"' cs = some (part, '.' :: behind)) :
    scanParts cs = (scanParts behind).map fun read => (part :: read.1, read.2) := by
  rw [scanParts]
  split <;> rename_i hscan <;> rw [h] at hscan
  · cases hscan
  · cases hscan
    rfl
  · rename_i hpoint
    cases hscan
    exact absurd rfl (hpoint _)

/-- Without a point behind it, a name is the last one. -/
theorem scanParts_of_end (h : scan '"' cs = some (part, rest)) (hrest : rest.head? ≠ some '.') :
    scanParts cs = some ([part], rest) := by
  rw [scanParts]
  split <;> rename_i hscan <;> rw [h] at hscan
  · cases hscan
  · cases hscan
    exact absurd rfl hrest
  · cases hscan
    rfl

theorem scanParts_partsText (hparts : parts ≠ []) (hmark : rest.head? ≠ some '"')
    (hpoint : rest.head? ≠ some '.') :
    scanParts (partsText parts ++ rest) = some (parts, rest) := by
  induction parts with
  | nil => exact absurd rfl hparts
  | cons part parts ih =>
    rcases parts with _ | ⟨next, parts⟩
    · rw [partsText_singleton]
      exact scanParts_of_end (Text.Quoted.scan_enclose part hmark) hpoint
    · -- the point between two parts keeps the marks on its sides apart
      rw [partsText_cons_cons, List.append_assoc, List.cons_append,
        scanParts_of_point (Text.Quoted.scan_enclose part (by simp)), ih (List.cons_ne_nil _ _)]
      rfl

theorem eq_of_scanParts (h : scanParts cs = some (parts, rest)) :
    parts ≠ [] ∧ cs = partsText parts ++ rest ∧ rest.head? ≠ some '"' ∧ rest.head? ≠ some '.' := by
  fun_induction scanParts cs generalizing parts with
  | case1 => cases h
  | case2 cs part behind hscan ih =>
    obtain ⟨read, hread, hparts⟩ := Option.map_eq_some_iff.1 h
    obtain ⟨rfl, rfl⟩ := Prod.mk.inj hparts
    obtain ⟨hne, rfl, hrest⟩ := ih hread
    obtain ⟨rfl, -⟩ := Text.Quoted.scan_eq_some_iff.1 hscan
    obtain ⟨next, parts, hparts⟩ := List.exists_cons_of_ne_nil hne
    refine ⟨List.cons_ne_nil _ _, ?_, hrest⟩
    rw [hparts, partsText_cons_cons, List.append_assoc, List.cons_append]
  | case3 cs part behind hpoint hscan =>
    obtain ⟨rfl, rfl⟩ := Prod.mk.inj (Option.some.inj h)
    obtain ⟨rfl, hmark⟩ := Text.Quoted.scan_eq_some_iff.1 hscan
    refine ⟨List.cons_ne_nil _ _, by rw [partsText_singleton], hmark, fun hhead => ?_⟩
    obtain ⟨tail, rfl⟩ := List.head?_eq_some_iff.1 hhead
    exact hpoint tail rfl

/-- Parts are read off a text exactly if the text starts with them as they are written, and neither
a mark nor a point follows. -/
theorem scanParts_eq_some_iff : scanParts cs = some (parts, rest) ↔
    parts ≠ [] ∧ cs = partsText parts ++ rest ∧ rest.head? ≠ some '"' ∧ rest.head? ≠ some '.' := by
  constructor
  · exact eq_of_scanParts
  · rintro ⟨hparts, rfl, hmark, hpoint⟩
    exact scanParts_partsText hparts hmark hpoint

end Parts

/-! ### Reading texts -/

/-- Reads a quoted text at the start of a text: the content, in which a pair of marks stands for one
mark, up to the first mark that stands alone, and what follows this mark. -/
def readQuoted (mark : Char) (text : String) : Option (String × String) :=
  (scan mark text.toList).map fun read => (String.ofList read.1, String.ofList read.2)

/-- Reads a table name at the start of a text: its parts, each in double quotes and with a point
between one and the next, and what follows the last. -/
def readParts (text : String) : Option (List String × String) :=
  (scanParts text.toList).map fun read => (read.1.map String.ofList, String.ofList read.2)

/-- The parts of a name between its points, empty ones included. -/
def partsOf (name : String) : List String := (name.toList.splitOn '.').map String.ofList

theorem map_toList_partsOf (name : String) :
    (partsOf name).map String.toList = splitDots name.toList := by
  simp [partsOf, splitDots_eq_splitOn, Function.comp_def]

theorem partsOf_ne_nil (name : String) : partsOf name ≠ [] := by
  simp [partsOf, List.splitOn_ne_nil]

/-- A name is its parts with points between them. -/
theorem partsOf_injective : Function.Injective partsOf := by
  intro name other h
  have hsplit : name.toList.splitOn '.' = other.toList.splitOn '.' := by
    rw [← splitDots_eq_splitOn, ← map_toList_partsOf, h, map_toList_partsOf, splitDots_eq_splitOn]
  apply String.toList_injective
  calc name.toList = ['.'].intercalate (name.toList.splitOn '.') :=
        (List.intercalate_splitOn '.').symm
    _ = ['.'].intercalate (other.toList.splitOn '.') := by rw [hsplit]
    _ = other.toList := List.intercalate_splitOn '.'

variable {text content name rest : String}

theorem startsWith_eq_false_iff {mark : Char} :
    text.startsWith mark = false ↔ text.toList.head? ≠ some mark := by
  rw [String.startsWith_char_eq_head?, beq_eq_false_iff_ne]

theorem readQuoted_eq_some_iff {mark : Char} : readQuoted mark text = some (content, rest) ↔
    text.toList = enclose mark content.toList ++ rest.toList ∧ rest.startsWith mark = false := by
  rw [startsWith_eq_false_iff, ← Text.Quoted.scan_eq_some_iff, readQuoted, Option.map_eq_some_iff]
  constructor
  · rintro ⟨read, hread, heq⟩
    obtain ⟨rfl, rfl⟩ := Prod.mk.inj heq
    rw [hread, String.toList_ofList, String.toList_ofList]
  · intro hread
    exact ⟨_, hread, by simp⟩

theorem readParts_eq_some_iff {parts : List String} : readParts text = some (parts, rest) ↔
    parts ≠ [] ∧ text.toList = partsText (parts.map String.toList) ++ rest.toList ∧
      rest.startsWith '"' = false ∧ rest.startsWith '.' = false := by
  have hne : parts ≠ [] ↔ parts.map String.toList ≠ [] := by simp
  rw [hne, startsWith_eq_false_iff, startsWith_eq_false_iff, ← scanParts_eq_some_iff, readParts,
    Option.map_eq_some_iff]
  constructor
  · rintro ⟨read, hread, heq⟩
    obtain ⟨rfl, rfl⟩ := Prod.mk.inj heq
    simp [hread]
  · intro hread
    exact ⟨_, hread, by simp⟩

theorem readQuoted_quoteName_iff : readQuoted '"' text = some (name, rest) ↔
    text = quoteName name ++ rest ∧ rest.startsWith '"' = false := by
  rw [readQuoted_eq_some_iff, ← toList_quoteName, ← String.toList_append, String.toList_inj]

theorem readQuoted_quoteText_iff : readQuoted '\'' text = some (content, rest) ↔
    text = quoteText content ++ rest ∧ rest.startsWith '\'' = false := by
  rw [readQuoted_eq_some_iff, ← toList_quoteText, ← String.toList_append, String.toList_inj]

theorem readParts_quoteTable_iff : readParts text = some (partsOf name, rest) ↔
    text = quoteTable name ++ rest ∧ rest.startsWith '"' = false ∧ rest.startsWith '.' = false := by
  rw [readParts_eq_some_iff, map_toList_partsOf, ← toList_quoteTable, ← String.toList_append,
    String.toList_inj, and_iff_right (partsOf_ne_nil name)]

/-! ### Names that are written alike -/

/-- Where a reading comes back, nothing is written alike. -/
theorem injective_of_read {α : Type} {write : String → String} {view : String → α}
    {read : String → Option (α × String)} (hview : Function.Injective view)
    (hread : ∀ name, read (write name ++ "") = some (view name, "")) :
    Function.Injective write := by
  intro name other h
  have hname := hread name
  rw [h, hread other] at hname
  exact hview (Prod.mk.inj (Option.some.inj hname)).1.symm

theorem quoteName_injective : Function.Injective quoteName :=
  injective_of_read Function.injective_id fun _ => readQuoted_quoteName_iff.2 ⟨rfl, by decide⟩

theorem quoteText_injective : Function.Injective quoteText :=
  injective_of_read Function.injective_id fun _ => readQuoted_quoteText_iff.2 ⟨rfl, by decide⟩

theorem quoteTable_injective : Function.Injective quoteTable :=
  injective_of_read partsOf_injective fun _ =>
    readParts_quoteTable_iff.2 ⟨rfl, by decide, by decide⟩

/-- A quoted name is read back as the name in front of every text that does not start with a double
quote, a literal as its text in front of every text that does not start with a single quote, and a
table name as its parts in front of every text that starts with neither a double quote nor a point.
The rest is what followed, and nothing but a text so written is read so. No two names, no two texts
and no two table names are written alike. -/
theorem quotes_readBack :
    (∀ text name rest : String, readQuoted '"' text = some (name, rest) ↔
      text = quoteName name ++ rest ∧ rest.startsWith '"' = false) ∧
    (∀ text content rest : String, readQuoted '\'' text = some (content, rest) ↔
      text = quoteText content ++ rest ∧ rest.startsWith '\'' = false) ∧
    (∀ text name rest : String, readParts text = some (partsOf name, rest) ↔
      text = quoteTable name ++ rest ∧ rest.startsWith '"' = false ∧
        rest.startsWith '.' = false) ∧
    Function.Injective quoteName ∧ Function.Injective quoteText ∧
      Function.Injective quoteTable := by
  refine ⟨?_, ?_, ?_, quoteName_injective, quoteText_injective, quoteTable_injective⟩
  · intro text name rest
    exact readQuoted_quoteName_iff
  · intro text content rest
    exact readQuoted_quoteText_iff
  · intro text name rest
    exact readParts_quoteTable_iff

example : readParts "\"a\"\"\".\"\" AS" = some (["a\"", ""], " AS") := by cbv

end Crosstab.Sql

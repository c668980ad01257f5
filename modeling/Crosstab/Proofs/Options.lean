import Crosstab.Options
import Crosstab.Proofs.CommandLine.Settings
import Crosstab.Proofs.Lookup
import Crosstab.Proofs.Text.LowerCase
import Crosstab.Proofs.Text.Words

/-!
# Options by name

A name of a dialect or of a naming policy is recognised whatever its case and whatever blanks stand
around it. Lower-casing goes by all of Unicode, names compare by the letters A to Z: on the names
that there are the two agree, because none of them has a `k`, the one letter of ASCII that a
character beyond ASCII can become.

    text ──without outer blanks──▶ core ──same but for case──▶ name ──▶ value
                                     └────────no name─────────▶ error with the core in lower case
-/

namespace Crosstab

open Text (Strips InkAtEnds Plain isBlank lowerCase lowerFrom sameButCase)
open Sql (Dialect ColumnNaming)
open CommandLine (Chosen ofVariable ofVariables_eq ofVariable_eq_ok_iff ofVariable_eq_error_iff)

variable {α : Type}

/-- A reader of names knows the ones of a list: a text is taken exactly if it is one of them but for
case and outer blanks, and then nothing beyond ASCII is in it but blanks. Any other text is refused
under the name that it has in lower case without outer blanks, and this name again under itself. -/
structure Recognises (names : List (String × α)) (unknown : String → ConfigError)
    (parse : String → Except ConfigError α) : Prop where
  taken : ∀ text value, parse text = .ok value ↔
    ∃ core name, Strips text.toList core ∧ sameButCase name (String.ofList core) = true ∧
      (name, value) ∈ names
  ascii : ∀ text value, parse text = .ok value →
    ∀ c ∈ text.toList, c.toNat < 128 ∨ isBlank c = true
  refused : ∀ text error, parse text = .error error →
    ∃ core, Strips text.toList core ∧ error = unknown (lowerCase (String.ofList core)) ∧
      parse (lowerCase (String.ofList core)) = .error error

/-- What variables make of the options. -/
inductive OptionsRead (lookup : String → Option String) : Except ConfigError Options → Prop
  | dialect {name cause} (hset : lookup Options.dialectVariable = some name)
    (hrefused : parseDialect name = .error cause) : OptionsRead lookup (.error cause)
  | naming {dialect name cause}
    (hdialect : Chosen parseDialect none (lookup Options.dialectVariable) .sqlite dialect)
    (hset : lookup Options.namingVariable = some name)
    (hrefused : parseNaming name = .error cause) : OptionsRead lookup (.error cause)
  | options {dialect naming}
    (hdialect : Chosen parseDialect none (lookup Options.dialectVariable) .sqlite dialect)
    (hnaming : Chosen parseNaming none (lookup Options.namingVariable) .quoted naming) :
    OptionsRead lookup (.ok ⟨dialect, naming, false⟩)

/-! ### A list of names -/

/-- The name in a text, if it is one of a list, stands for its value. -/
def byName (names : List (String × α)) (unknown : String → ConfigError) (text : String) :
    Except ConfigError α :=
  match names.lookup (optionName text) with
  | some value => .ok value
  | none => .error (unknown (optionName text))

section

variable {names : List (String × α)} {unknown : String → ConfigError} {text : String}

theorem byName_eq_ok_iff {value : α} :
    byName names unknown text = .ok value ↔ names.lookup (optionName text) = some value := by
  unfold byName
  cases names.lookup (optionName text) <;> simp

theorem byName_eq_error_iff {error : ConfigError} : byName names unknown text = .error error ↔
    names.lookup (optionName text) = none ∧ error = unknown (optionName text) := by
  unfold byName
  cases names.lookup (optionName text) <;> simp [eq_comm]

theorem parseDialect_eq_byName : parseDialect = byName dialectNames .unknownDialect := by
  funext text
  unfold parseDialect byName
  cases dialectNames.lookup (optionName text) <;> rfl

theorem parseNaming_eq_byName : parseNaming = byName namingNames .unknownNaming := by
  funext text
  unfold parseNaming byName
  cases namingNames.lookup (optionName text) <;> rfl

theorem optionName_of_strips {core : List Char} (h : Strips text.toList core) :
    optionName text = lowerCase (String.ofList core) := by
  rw [optionName, Text.trim, Text.trimmed_of_strips h]

/-- A name as it is compared stays as it is when it is read again. -/
theorem optionName_optionName (text : String) : optionName (optionName text) = optionName text := by
  have hends : InkAtEnds (optionName text).toList := by
    obtain ⟨before, after, -, -, -, hcore⟩ := Text.strips_trimmed text.toList
    rw [optionName, lowerCase, String.toList_ofList, Text.trim, String.toList_ofList]
    exact Text.inkAtEnds_lowerFrom [] hcore
  have hself := optionName_of_strips (Text.strips_self hends)
  rw [String.ofList_toList] at hself
  rw [hself, optionName, Text.lowerCase_lowerCase]

/-- Names that are plain and differ are recognised. -/
theorem recognises_byName (hplain : ∀ entry ∈ names, Plain entry.1)
    (hnames : (names.map Prod.fst).Nodup) : Recognises names unknown (byName names unknown) where
  taken text value := by
    rw [byName_eq_ok_iff, lookup_eq_some_iff_mem hnames]
    constructor
    · intro hmem
      have hstrips := Text.strips_trimmed text.toList
      have hname := optionName_of_strips hstrips
      exact ⟨_, _, hstrips, (Text.lowerCase_eq_iff (hplain _ hmem)).1 hname.symm, hmem⟩
    · rintro ⟨core, name, hstrips, hsame, hmem⟩
      rwa [optionName_of_strips hstrips, (Text.lowerCase_eq_iff (hplain _ hmem)).2 hsame]
  ascii text value h := by
    rw [byName_eq_ok_iff, lookup_eq_some_iff_mem hnames] at h
    have hstrips := Text.strips_trimmed text.toList
    have hcore := Text.lt_of_lowerCase_eq (hplain _ h) (optionName_of_strips hstrips).symm
    obtain ⟨before, after, htext, hbefore, hafter, -⟩ := hstrips
    rw [String.toList_ofList] at hcore
    intro c hc
    rw [htext, List.mem_append, List.mem_append] at hc
    rcases hc with hc | hc | hc
    · exact .inr (hbefore c hc)
    · exact .inl (hcore c hc)
    · exact .inr (hafter c hc)
  refused text error h := by
    obtain ⟨hnone, herror⟩ := byName_eq_error_iff.1 h
    have hstrips := Text.strips_trimmed text.toList
    refine ⟨_, hstrips, ?_⟩
    rw [← optionName_of_strips hstrips, byName_eq_error_iff, optionName_optionName]
    exact ⟨herror, hnone, herror⟩

/-- The dialects are recognised. -/
theorem recognises_parseDialect : Recognises dialectNames .unknownDialect parseDialect := by
  rw [parseDialect_eq_byName]
  exact recognises_byName (by decide) (by decide)

/-- The naming policies are recognised. -/
theorem recognises_parseNaming : Recognises namingNames .unknownNaming parseNaming := by
  rw [parseNaming_eq_byName]
  exact recognises_byName (by decide) (by decide)

end

/-! ### Variables -/

section

variable {lookup : String → Option String} {result : Except ConfigError Options}

theorem optionsRead_ofVariables (lookup : String → Option String) :
    OptionsRead lookup (Options.ofVariables lookup) := by
  rw [ofVariables_eq]
  rcases hdialect : ofVariable parseDialect .sqlite (lookup Options.dialectVariable)
    with cause | dialect
  · obtain ⟨name, hset, hrefused⟩ := ofVariable_eq_error_iff.1 hdialect
    exact .dialect hset hrefused
  rw [ofVariable_eq_ok_iff] at hdialect
  rcases hnaming : ofVariable parseNaming .quoted (lookup Options.namingVariable)
    with cause | naming
  · obtain ⟨name, hset, hrefused⟩ := ofVariable_eq_error_iff.1 hnaming
    exact .naming hdialect hset hrefused
  · rw [ofVariable_eq_ok_iff] at hnaming
    exact .options hdialect hnaming

theorem ofVariables_eq_of_optionsRead (h : OptionsRead lookup result) :
    Options.ofVariables lookup = result := by
  rw [ofVariables_eq]
  cases h with
  | dialect hset hrefused =>
    rw [ofVariable_eq_error_iff.2 ⟨_, hset, hrefused⟩]
    rfl
  | naming hdialect hset hrefused =>
    rw [ofVariable_eq_ok_iff.2 hdialect, ofVariable_eq_error_iff.2 ⟨_, hset, hrefused⟩]
    rfl
  | options hdialect hnaming =>
    rw [ofVariable_eq_ok_iff.2 hdialect, ofVariable_eq_ok_iff.2 hnaming]
    rfl

end

/-- **Options by name.** Dialects and naming policies are recognised up to the case of the letters A
to Z and blanks around them, whatever is refused is refused under a name that is refused again, and
the variables are read one after the other. -/
theorem options_recognised :
    Recognises
        [("sqlite", .sqlite), ("postgres", .postgres), ("postgresql", .postgres), ("pg", .postgres)]
        .unknownDialect parseDialect ∧
      Recognises
        [("quoted", .quoted), ("sanitized", .sanitized), ("sanitize", .sanitized), ("raw", .raw)]
        .unknownNaming parseNaming ∧
      ∀ lookup result, Options.ofVariables lookup = result ↔ OptionsRead lookup result :=
  ⟨recognises_parseDialect, recognises_parseNaming,
    fun lookup _ => ⟨fun h => h ▸ optionsRead_ofVariables lookup, ofVariables_eq_of_optionsRead⟩⟩

end Crosstab

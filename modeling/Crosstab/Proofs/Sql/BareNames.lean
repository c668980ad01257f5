import Crosstab.Proofs.Sql.Blame
import Crosstab.Proofs.Sql.Naming
import Crosstab.Proofs.Sql.Scanning

/-!
# Bare names

A name can be written bare if it is spelled like an identifier and is no reserved word. The
sanitizing policy makes such a name of any text, and one that is such a name stays as it is. None
of its repairs undoes another: an underscore in front or behind makes no reserved word, because no
reserved word starts or ends with one.

    text ──sanitize──▶ bare name ──sanitize──▶ the same bare name

The raw policy looks at the spelling alone, so a value that is a reserved word goes through.
-/

namespace Crosstab.Sql

/-! ### Bare names, said without the checks -/

/-- A letter A to Z in either case, or an underscore. -/
def StartsName (c : Char) : Prop := ('A' ≤ c ∧ c ≤ 'Z') ∨ ('a' ≤ c ∧ c ≤ 'z') ∨ c = '_'

/-- What starts a name, or a digit. -/
def ContinuesName (c : Char) : Prop := StartsName c ∨ ('0' ≤ c ∧ c ≤ '9')

/-- The name is spelled `[A-Za-z_][A-Za-z0-9_]*`. -/
def IsSpelledBare (name : String) : Prop :=
  ∃ first rest, name.toList = first :: rest ∧ StartsName first ∧ ∀ c ∈ rest, ContinuesName c

/-- A name that can be written bare. -/
structure IsBareName (name : String) : Prop where
  spelled : IsSpelledBare name
  /-- The name is no reserved word in any case. -/
  free : ∀ word ∈ reservedWords, Text.sameButCase word name = false

theorem isIdentifierStart_iff {c : Char} : isIdentifierStart c = true ↔ StartsName c := by
  have hranges : isIdentifierStart c =
      (decide ('A' ≤ c ∧ c ≤ 'Z') || (decide ('a' ≤ c) && decide (c ≤ 'z')) || c == '_') := rfl
  simp only [hranges, StartsName, Bool.or_eq_true, Bool.and_eq_true, decide_eq_true_eq, beq_iff_eq,
    or_assoc]

theorem isIdentifierChar_iff {c : Char} : isIdentifierChar c = true ↔ ContinuesName c := by
  have hchar : isIdentifierChar c = (isIdentifierStart c || c.isDigit) := by
    unfold isIdentifierChar isIdentifierStart Char.isAlphanum
    rw [Bool.or_assoc, Bool.or_comm c.isDigit, ← Bool.or_assoc]
  have hdigit : c.isDigit = (decide ('0' ≤ c) && decide (c ≤ '9')) := rfl
  simp only [hchar, hdigit, ContinuesName, isIdentifierStart_iff, Bool.or_eq_true,
    Bool.and_eq_true, decide_eq_true_eq]

theorem isIdentifier_iff {name : String} :
    isIdentifier name.toList = true ↔ IsSpelledBare name := by
  unfold IsSpelledBare
  rcases name.toList with _ | ⟨first, rest⟩
  · simp [isIdentifier]
  · simp [isIdentifier, isIdentifierStart_iff, isIdentifierChar_iff]

theorem isReserved_eq_false_iff {name : String} : isReserved name = false ↔
    ∀ word ∈ reservedWords, Text.sameButCase word name = false := by
  unfold isReserved
  simp only [List.any_eq_false, Bool.not_eq_true]

theorem isBareName_iff {name : String} :
    IsBareName name ↔ isIdentifier name.toList = true ∧ isReserved name = false := by
  rw [isIdentifier_iff, isReserved_eq_false_iff]
  exact ⟨fun h => ⟨h.spelled, h.free⟩, fun h => ⟨h.1, h.2⟩⟩

/-! ### Sanitizing -/

/-- A reserved word with an underscore starts with a `C` or an `S`, and ends with another letter. -/
theorem reservedWords_underscore : ∀ word ∈ reservedWords, '_' ∈ word.toList →
    word.toList.head? ∈ [some 'C', some 'S'] ∧ word.toList.getLast? ≠ some '_' := by
  decide +kernel

theorem eq_underscore_of_toUpper {c : Char} (h : c.toUpper = '_') : c = '_' := by
  unfold Char.toUpper at h
  split at h
  · next hlower =>
    have hcode := UInt32.eq_sub_iff_add_eq.2 (congrArg Char.val h)
    rw [hcode] at hlower
    exact absurd hlower (by decide)
  · exact h

/-- A name with an underscore is no reserved word if it starts with neither a `C` nor an `S`, or if
it ends with an underscore. -/
theorem isReserved_of_underscore {name : String} (hmem : '_' ∈ name.toList)
    (h : name.toList.head?.map Char.toUpper ∉ [some 'C', some 'S'] ∨
      name.toList.getLast? = some '_') : isReserved name = false := by
  apply isReserved_eq_false_iff.2
  intro word hword
  apply Bool.eq_false_iff.2
  intro hsame
  have hupper : word.toList.map Char.toUpper = name.toList.map Char.toUpper := beq_iff_eq.1 hsame
  have hunderscore : '_' ∈ word.toList := by
    have hmapped : '_' ∈ word.toList.map Char.toUpper := by
      rw [hupper]
      exact List.mem_map.2 ⟨'_', hmem, by decide⟩
    obtain ⟨c, hc, heq⟩ := List.mem_map.1 hmapped
    rwa [eq_underscore_of_toUpper heq] at hc
  obtain ⟨hhead, hlast⟩ := reservedWords_underscore word hword hunderscore
  rcases h with h | h
  · rw [← List.head?_map, ← hupper, List.head?_map] at h
    rcases List.mem_pair.1 hhead with hfirst | hfirst <;> exact h (by rw [hfirst]; decide)
  · have hend : (word.toList.getLast?).map Char.toUpper = some '_' := by
      rw [← List.getLast?_map, hupper, List.getLast?_map, h]
      decide
    obtain ⟨c, hc, heq⟩ := Option.map_eq_some_iff.1 hend
    rw [eq_underscore_of_toUpper heq] at hc
    exact hlast hc

/-- No repair makes a reserved word. -/
theorem Repaired.free {chars : List Char} {name : String} (h : Repaired chars name) :
    isReserved name = false := by
  cases h with
  | empty => exact isReserved_of_underscore (by decide) (.inl (by decide))
  | @digit c cs hdigit =>
    have htext : ("_" ++ String.ofList (c :: cs)).toList = '_' :: c :: cs := by simp
    refine isReserved_of_underscore ?_ (.inl ?_)
    · rw [htext]
      exact List.mem_cons_self
    · rw [htext, List.head?_cons]
      decide
  | @reserved c cs hdigit hreserved =>
    have htext : (String.ofList (c :: cs) ++ "_").toList = c :: cs ++ ['_'] := by simp
    refine isReserved_of_underscore ?_ (.inr ?_)
    · rw [htext]
      exact List.mem_append_right _ List.mem_cons_self
    · rw [htext]
      exact List.getLast?_concat
  | kept hdigit hfree => exact hfree

/-- There is nothing to repair in a bare name. -/
theorem Repaired.eq_self {chars : List Char} {name : String} (h : Repaired chars name)
    (hidentifier : isIdentifier chars = true)
    (hfree : isReserved (String.ofList chars) = false) : name = String.ofList chars := by
  cases h with
  | empty => cases hidentifier
  | digit hdigit =>
    have hstart := (Bool.and_eq_true_iff.1 hidentifier).1
    rw [← Decimal.isDigit_eq, not_isDigit_of_start hstart] at hdigit
    cases hdigit
  | reserved hdigit hreserved =>
    rw [hfree] at hreserved
    cases hreserved
  | kept hdigit _ => rfl

theorem isReserved_sanitize (text : String) : isReserved (sanitize text) = false :=
  (repaired_sanitize text).free

theorem isBareName_sanitize (text : String) : IsBareName (sanitize text) :=
  isBareName_iff.2 ⟨isIdentifier_sanitize text, isReserved_sanitize text⟩

/-- There is nothing to clean in a name that is spelled bare. -/
theorem cleaned_of_isSpelledBare {text : String} (h : IsSpelledBare text) :
    cleaned text = text.toList := by
  obtain ⟨first, rest, htext, hfirst, hrest⟩ := h
  have hall : ∀ c ∈ text.toList, isIdentifierChar c = true := by
    rw [htext]
    intro c hc
    apply isIdentifierChar_iff.2
    rcases List.mem_cons.1 hc with rfl | hc
    · exact .inl hfirst
    · exact hrest c hc
  calc cleaned text
      = text.toList.map id := List.map_congr_left fun c hc => if_pos (hall c hc)
    _ = text.toList := List.map_id _

theorem sanitize_of_isBareName {text : String} (h : IsBareName text) : sanitize text = text := by
  obtain ⟨hidentifier, hfree⟩ := isBareName_iff.1 h
  have hrepaired := repaired_sanitize text
  rw [cleaned_of_isSpelledBare h.spelled] at hrepaired
  have hself := hrepaired.eq_self hidentifier (by rwa [String.ofList_toList])
  rwa [String.ofList_toList] at hself

/-- **Sanitizing.** Whatever the text, a bare name is made of it, and nothing is left to do then:
sanitizing again changes nothing, and neither policy that writes names bare refuses it. Only bare
names stay as they are. -/
theorem sanitize_settles (text : String) :
    sanitize text ≠ "" ∧ IsBareName (sanitize text) ∧ sanitize (sanitize text) = sanitize text ∧
      (sanitize text = text ↔ IsBareName text) ∧
      ColumnNaming.sanitized.columnName text = .ok (sanitize text) ∧
      ColumnNaming.raw.columnName (sanitize text) = .ok (sanitize text) := by
  have hbare := isBareName_sanitize text
  have hidentifier := isIdentifier_sanitize text
  refine ⟨?_, hbare, sanitize_of_isBareName hbare, ?_, rfl, ?_⟩
  · intro hempty
    rw [hempty] at hidentifier
    cases hidentifier
  · constructor
    · intro hsame
      rw [← hsame]
      exact hbare
    · exact sanitize_of_isBareName
  · exact columnName_raw_eq_ok_iff.2 ⟨hidentifier, rfl⟩

/-! ### Statements with bare names -/

variable {naming : ColumnNaming} {label column : String}

theorem render_of_bare (hbare : naming ≠ .quoted) (name : String) : naming.render name = name := by
  cases naming with
  | quoted => exact absurd rfl hbare
  | sanitized => rfl
  | raw => rfl

/-- A column that is not quoted has a bare name, unless its policy is the raw one and its label is a
reserved word. -/
theorem isBareName_columnName_iff (hbare : naming ≠ .quoted)
    (h : naming.columnName label = .ok column) :
    IsBareName column ↔ naming = .sanitized ∨ isReserved label = false := by
  cases naming with
  | quoted => exact absurd rfl hbare
  | sanitized =>
    obtain rfl : sanitize label = column := Except.ok.inj h
    exact iff_of_true (isBareName_sanitize label) (.inl rfl)
  | raw =>
    obtain ⟨hidentifier, rfl⟩ := columnName_raw_eq_ok_iff.1 h
    rw [isBareName_iff]
    simp [hidentifier]

/-- A reserved word never keeps its name under the sanitizing policy. -/
theorem sanitize_ne_of_isReserved (h : isReserved label = true) : sanitize label ≠ label := by
  intro hsame
  have hfree := isReserved_sanitize label
  rw [hsame, h] at hfree
  cases hfree

/-- Columns that stand bare in a statement as the grammar wants them: each is written as a bare
name, and a value whose label is a reserved word goes by another name. -/
structure WritesBareNames (naming : ColumnNaming) (values : List Value) (columns : List String) :
    Prop where
  bare : ∀ column ∈ columns, IsBareName (naming.render column)
  renamed : ∀ value ∈ values, isReserved value.label = true →
    ∃ column ∈ columns, naming.columnName value.label = .ok column ∧ column ≠ value.label

variable {spec : Spec} {dialect : Dialect} {taken columns : List String} {values : List Value}

theorem Claimed.exists_column (h : Claimed naming taken values columns) {value : Value}
    (hvalue : value ∈ values) : ∃ column ∈ columns, naming.columnName value.label = .ok column := by
  have hmem : asked naming value ∈ columns.map .ok := h.map_asked ▸ List.mem_map_of_mem hvalue
  obtain ⟨column, hcolumn, hname⟩ := List.mem_map.1 hmem
  exact ⟨column, hcolumn, hname.symm⟩

theorem Claimed.exists_value (h : Claimed naming taken values columns)
    (hcolumn : column ∈ columns) :
    ∃ value ∈ values, naming.columnName value.label = .ok column := by
  have hmem : .ok column ∈ values.map (asked naming) := h.map_asked ▸ List.mem_map_of_mem hcolumn
  exact List.mem_map.1 hmem

theorem Claimed.writesBareNames_iff (hbare : naming ≠ .quoted)
    (h : Claimed naming taken values columns) : WritesBareNames naming values columns ↔
      naming = .sanitized ∨ ∀ value ∈ values, isReserved value.label = false := by
  constructor
  · intro hwrites
    by_cases hsanitized : naming = .sanitized
    · exact .inl hsanitized
    · right
      intro value hvalue
      obtain ⟨column, hcolumn, hname⟩ := h.exists_column hvalue
      have hwritten := hwrites.bare column hcolumn
      rw [render_of_bare hbare, isBareName_columnName_iff hbare hname] at hwritten
      exact hwritten.resolve_left hsanitized
  · intro hfree
    constructor
    · intro column hcolumn
      obtain ⟨value, hvalue, hname⟩ := h.exists_value hcolumn
      rw [render_of_bare hbare, isBareName_columnName_iff hbare hname]
      exact hfree.imp_right fun hfree => hfree value hvalue
    · intro value hvalue hreserved
      rcases hfree with rfl | hfree
      · obtain ⟨column, hcolumn, hname⟩ := h.exists_column hvalue
        obtain rfl : sanitize value.label = column := Except.ok.inj hname
        exact ⟨_, hcolumn, hname, sanitize_ne_of_isReserved hreserved⟩
      · rw [hfree value hvalue] at hreserved
        cases hreserved

/-- **Bare names.** A statement whose columns are not quoted writes bare names exactly if its policy
is the sanitizing one or no label is a reserved word. In any case its columns are spelled like bare
names. -/
theorem build_writesBareNames_iff (hbare : naming ≠ .quoted) {values : ValueSet}
    {statement : Statement} (h : build spec dialect naming values = .ok statement) :
    (WritesBareNames naming values.values statement.columns ↔
        naming = .sanitized ∨ ∀ value ∈ values.values, isReserved value.label = false) ∧
      ∀ column ∈ statement.columns, IsSpelledBare (naming.render column) := by
  have hclaimed := claimed_of_build h
  refine ⟨hclaimed.writesBareNames_iff hbare, ?_⟩
  intro column hcolumn
  obtain ⟨value, -, hname⟩ := hclaimed.exists_value hcolumn
  rw [render_of_bare hbare]
  exact isIdentifier_iff.1 (isIdentifier_of_columnName hbare hname)

theorem isReserved_group : isReserved "group" = true :=
  List.any_eq_true.2 ⟨"GROUP", List.mem_of_getElem? (i := 72) (by rfl), by decide⟩

theorem build_writesBareNames_iff_keyword :
    let spec : Spec := ⟨"w", "s", "id", "k", "amt"⟩
    let values := ValueSet.ofList [.text "group", .text "Order by", .integer 2024]
    ∃ statement, build spec .sqlite .sanitized values = .ok statement ∧
      statement.columns = ["group_", "Order_by", "_2024"] ∧
      WritesBareNames .sanitized values.values statement.columns := by
  intro spec values
  have hgroup : sanitize "group" = "group_" := by
    simp [sanitize, isIdentifierChar, isReserved_group]
  have horder : sanitize "Order by" = "Order_by" := by
    have hfree : isReserved "Order_by" = false :=
      isReserved_of_underscore (by decide) (.inl (by decide))
    simp [sanitize, isIdentifierChar, hfree]
  have hyear : sanitize (Value.integer 2024).label = "_2024" := by
    have hlabel : (Value.integer 2024).label = "2024" := by decide
    rw [hlabel]
    simp [sanitize, isIdentifierChar]
  have hvalues : values.values = [.text "group", .text "Order by", .integer 2024] := by decide
  have hcolumns : outputColumns spec .sanitized values.values =
      .ok ["group_", "Order_by", "_2024"] := by
    rw [outputColumns, hvalues]
    exact claimNames_of_claimed <| .cons (congrArg Except.ok hgroup) (by decide) <|
      .cons (congrArg Except.ok horder) (by decide) <|
        .cons (congrArg Except.ok hyear) (by decide) .nil
  have hbuild : build spec .sqlite .sanitized values = .ok _ :=
    build_eq_ok_iff.2 ⟨_, hcolumns, rfl⟩
  refine ⟨_, hbuild, rfl, ?_⟩
  exact (build_writesBareNames_iff (by decide) hbuild).1.2 (.inl rfl)

/-- The raw policy writes a reserved word as it is. -/
theorem build_writes_keyword :
    let spec : Spec := ⟨"w", "s", "id", "k", "amt"⟩
    let values := ValueSet.ofList [.text "group"]
    ∃ statement, build spec .sqlite .raw values = .ok statement ∧ statement.columns = ["group"] ∧
      ¬ WritesBareNames .raw values.values statement.columns := by
  intro spec values
  have hcolumns : outputColumns spec .raw values.values = .ok ["group"] := by decide
  have hbuild : build spec .sqlite .raw values = .ok _ := build_eq_ok_iff.2 ⟨_, hcolumns, rfl⟩
  refine ⟨_, hbuild, rfl, ?_⟩
  intro hwrites
  have hfree := ((claimed_of_build hbuild).writesBareNames_iff (by decide)).1 hwrites
  rcases hfree with hsanitized | hfree
  · cases hsanitized
  · have hgroup := hfree (.text "group") List.mem_cons_self
    exact absurd (isReserved_group.symm.trans hgroup) (by decide)

end Crosstab.Sql

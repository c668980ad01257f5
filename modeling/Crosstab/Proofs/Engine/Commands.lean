import Crosstab.Proofs.Engine.Reading

/-!
# Commands of a run

What the engine reads the texts of a run as. A text is read up to a NUL; a name with a NUL in it
therefore leaves a quote open, and no statement of a run is read that way to its end.
-/

namespace Crosstab.Engine

open Sql (Lexeme Token)

/-! ### Texts without NUL -/

/-- The text has no NUL, so all of it is read. -/
def IsWhole (cs : List Char) : Prop := '\x00' ∉ cs

theorem isRead_of_isWhole {cs : List Char} (h : IsWhole cs) : ∀ c ∈ cs, isRead c = true := by
  intro c hc
  have hne : c ≠ '\x00' := fun heq => h (heq ▸ hc)
  simp [isRead, hne]

theorem readPart_eq {sql : String} (h : IsWhole sql.toList) : readPart sql = sql.toList := by
  have happend : (sql.toList ++ []).takeWhile isRead = sql.toList ++ [].takeWhile isRead :=
    List.takeWhile_append_of_pos (isRead_of_isWhole h)
  rwa [List.append_nil, List.takeWhile_nil, List.append_nil] at happend

theorem unreadPart_eq {sql : String} (h : IsWhole sql.toList) : unreadPart sql = [] := by
  have happend : (sql.toList ++ []).dropWhile isRead = [].dropWhile isRead :=
    List.dropWhile_append_of_pos (isRead_of_isWhole h)
  rwa [List.append_nil, List.dropWhile_nil] at happend

theorem isWhole_of_unreadPart {sql : String} (h : unreadPart sql = []) : IsWhole sql.toList := by
  intro hmem
  have hsplit := List.takeWhile_append_dropWhile (p := isRead) (l := sql.toList)
  have hall : ∀ c ∈ sql.toList.takeWhile isRead, isRead c = true :=
    List.all_eq_true.1 List.all_takeWhile
  rw [unreadPart] at h
  rw [h, List.append_nil] at hsplit
  rw [← hsplit] at hmem
  exact absurd (hall _ hmem) (by decide)

/-- A table name is whole in a statement exactly if it is so by itself. -/
theorem isWhole_quoteTable {name : String} :
    IsWhole (Sql.quoteTable name).toList ↔ IsWhole name.toList := by
  unfold IsWhole
  rw [Sql.toList_quoteTable, Sql.mem_partsText (by decide) (by decide),
    Sql.mem_splitDots (by decide)]

theorem isWhole_quoteName {name : String} :
    IsWhole (Sql.quoteName name).toList ↔ IsWhole name.toList := by
  unfold IsWhole
  rw [Sql.toList_quoteName, Text.Quoted.mem_enclose (by decide)]

theorem isWhole_append {left right : List Char} :
    IsWhole (left ++ right) ↔ IsWhole left ∧ IsWhole right := by
  simp [IsWhole]

/-! ### Drops -/

/-- A text is read as the command that the tokens of its read part stand for. -/
theorem read_of_scanned {sql : String} {p : Command → Prop}
    (h : Reader.statement.Takes (Sql.scanned (readPart sql)) [] fun result =>
      p result.1 ∧ result.2 = [])
    {command : Command} {behind : List Char} (hread : Command.read sql = .ok (command, behind)) :
    p command ∧ behind = unreadPart sql := by
  unfold Command.read at hread
  split at hread
  · next rest hstatement =>
    obtain ⟨hcommand, rfl⟩ := (h _ _ _ (by rw [List.append_nil]; rfl) hstatement).2
    cases hread
    exact ⟨hcommand, rfl⟩
  · cases hread

/-- A text that is read as a whole is read as the command that its tokens stand for. -/
theorem read_of_takes {sql : String} (hwhole : IsWhole sql.toList) {p : Command → Prop}
    (h : Reader.statement.Takes (Sql.tokens sql) [] fun result => p result.1 ∧ result.2 = [])
    {command : Command} {behind : List Char} (hread : Command.read sql = .ok (command, behind)) :
    p command ∧ behind = [] := by
  rw [Sql.tokens_eq, ← readPart_eq hwhole] at h
  rw [← unreadPart_eq hwhole]
  exact read_of_scanned h hread

/-- A list of lexemes with given tokens is a list of places of these tokens. -/
theorem exists_lexeme_of_map_eq_cons {token : Token} {tokens : List Token} {lexemes : List Lexeme}
    (h : lexemes.map Lexeme.token = token :: tokens) :
    ∃ start behind rest, lexemes = ⟨token, start, behind⟩ :: rest ∧
      rest.map Lexeme.token = tokens := by
  obtain ⟨⟨_, start, behind⟩, rest, rfl, rfl, hrest⟩ := List.map_eq_cons_iff.1 h
  exact ⟨start, behind, rest, rfl, hrest⟩

theorem statement_of_dropTokens {name : String} (href : (tableRef? name).isSome = true)
    {lexemes : List Lexeme} (htokens : lexemes.map Lexeme.token = Sql.dropTokens name) :
    ∃ table, Reader.statement lexemes = .ok ((.drop table, []), []) := by
  obtain ⟨s₁, b₁, _, rfl, h₁⟩ := exists_lexeme_of_map_eq_cons htokens
  obtain ⟨s₂, b₂, _, rfl, h₂⟩ := exists_lexeme_of_map_eq_cons h₁
  obtain ⟨s₃, b₃, _, rfl, h₃⟩ := exists_lexeme_of_map_eq_cons h₂
  obtain ⟨s₄, b₄, rest, rfl, h₄⟩ := exists_lexeme_of_map_eq_cons h₃
  replace h₄ : rest.map Lexeme.token = Sql.tableTokens name := h₄
  -- with its places named, a list of lexemes is short enough to be read by computation
  rcases tableTokens_cases name with ⟨table, -, hname⟩ | ⟨qualifier, table, -, hname⟩ | ⟨hnone, -⟩
  · rw [hname] at h₄
    obtain ⟨s₅, b₅, _, rfl, h₅⟩ := exists_lexeme_of_map_eq_cons h₄
    obtain rfl := List.map_eq_nil_iff.1 h₅
    exact ⟨_, rfl⟩
  · rw [hname] at h₄
    obtain ⟨s₅, b₅, _, rfl, h₅⟩ := exists_lexeme_of_map_eq_cons h₄
    obtain ⟨s₆, b₆, _, rfl, h₆⟩ := exists_lexeme_of_map_eq_cons h₅
    obtain ⟨s₇, b₇, _, rfl, h₇⟩ := exists_lexeme_of_map_eq_cons h₆
    obtain rfl := List.map_eq_nil_iff.1 h₇
    exact ⟨_, rfl⟩
  · rw [hnone] at href
    cases href

/-- What a drop is read as, if it is read. -/
theorem takes_dropSql (name : String) :
    Reader.statement.Takes (Sql.tokens (Sql.dropSql (Sql.quoteTable name))) [] fun result =>
      (∃ table, table.Refers name ∧ result.1 = .drop table) ∧ result.2 = [] := by
  rw [Sql.tokens_dropSql]
  exact Reader.takes_statement fun h => Reader.takes_drop h

/-- A drop of a whole name that refers to a table is read as that. -/
theorem read_dropSql {name : String} (hwhole : IsWhole name.toList)
    (href : (tableRef? name).isSome = true) :
    ∃ table, Command.read (Sql.dropSql (Sql.quoteTable name)) = .ok (.drop table, []) ∧
      table.Refers name := by
  have hsql : IsWhole (Sql.dropSql (Sql.quoteTable name)).toList := by
    rw [Sql.toList_dropSql, isWhole_append, isWhole_quoteTable]
    exact ⟨by simp [IsWhole], hwhole⟩
  obtain ⟨table, hstatement⟩ := statement_of_dropTokens href (Sql.tokens_dropSql name)
  have hread : Command.read (Sql.dropSql (Sql.quoteTable name)) = .ok (.drop table, []) := by
    unfold Command.read
    rw [readPart_eq hsql, unreadPart_eq hsql, StateT.run, hstatement]
    rfl
  have hread' : ∃ found, found.Refers name ∧ Command.drop table = .drop found :=
    (read_of_takes hsql (p := fun command => ∃ found, found.Refers name ∧ command = .drop found)
      (takes_dropSql name) hread).1
  obtain ⟨found, hrefers, hfound⟩ := hread'
  cases hfound
  exact ⟨table, hread, hrefers⟩

/-! ### Discoveries -/

/-- The part that is read of a name with a NUL has no closing quote. -/
theorem takeWhile_enclose {cs : List Char} (h : ¬ IsWhole cs) (rest : List Char) :
    (Text.Quoted.enclose '"' cs ++ rest).takeWhile isRead =
      '"' :: Text.Quoted.double '"' (cs.takeWhile isRead) := by
  have hquote : isRead '"' = true := by decide
  have hdouble (behind : List Char) : (Text.Quoted.double '"' cs ++ behind).takeWhile isRead =
      Text.Quoted.double '"' (cs.takeWhile isRead) := by
    induction cs with
    | nil => exact absurd List.not_mem_nil h
    | cons c cs ih =>
      by_cases hnul : c = '\x00'
      · subst hnul
        rfl
      have hrest : ¬ IsWhole cs := fun hwhole => h fun hmem =>
        (List.mem_cons.1 hmem).elim (fun heq => hnul heq.symm) hwhole
      have hread : isRead c = true := by simp [isRead, hnul]
      by_cases hc : c = '"'
      · subst hc
        simp [Text.Quoted.double, hquote, ih hrest]
      · simp [Text.Quoted.double, hc, hread, ih hrest]
  rw [Text.Quoted.enclose, List.append_assoc, List.cons_append, List.takeWhile_cons_of_pos hquote,
    hdouble]

/-- The read part of a table name with a NUL is cut off inside one of its parts. -/
theorem exists_scanned_cut {parts : List (List Char)} (h : ∃ part ∈ parts, ¬ IsWhole part) :
    ∃ names, Sql.scanned ((Sql.partsText parts).takeWhile isRead) = Reader.cutTokens names := by
  induction parts with
  | nil =>
    obtain ⟨_, hpart, -⟩ := h
    cases hpart
  | cons part parts ih =>
    by_cases hpart : IsWhole part
    · have hparts : ∃ other ∈ parts, ¬ IsWhole other := by
        obtain ⟨other, hother, hnot⟩ := h
        rcases List.mem_cons.1 hother with rfl | hrest
        · exact absurd hpart hnot
        · exact ⟨other, hrest, hnot⟩
      obtain ⟨names, hnames⟩ := ih hparts
      rcases parts with _ | ⟨next, parts⟩
      · obtain ⟨_, hmem, -⟩ := hparts
        cases hmem
      have henclosed : ∀ c ∈ Text.Quoted.enclose '"' part, isRead c = true := by
        refine isRead_of_isWhole ?_
        rwa [IsWhole, Text.Quoted.mem_enclose (by decide)]
      obtain ⟨tail, htail⟩ := Sql.partsText_eq_quote (List.cons_ne_nil next parts)
      have hpoint : ('.' :: '"' :: tail).takeWhile isRead =
          '.' :: '"' :: tail.takeWhile isRead := rfl
      have hquote : ('"' :: tail).takeWhile isRead = '"' :: tail.takeWhile isRead := rfl
      rw [htail, hquote] at hnames
      refine ⟨String.ofList part :: names, ?_⟩
      rw [Sql.partsText_cons_cons, htail, List.takeWhile_append_of_pos henclosed, hpoint,
        Sql.scanned_name _ (Sql.isBreak_cons (by decide) _), Sql.scanned_point, hnames]
      rfl
    · obtain ⟨rest, hrest⟩ : ∃ rest, Sql.partsText (part :: parts) =
          Text.Quoted.enclose '"' part ++ rest := by
        rcases parts with _ | ⟨next, parts⟩
        · exact ⟨[], by rw [Sql.partsText_singleton, List.append_nil]⟩
        · exact ⟨_, Sql.partsText_cons_cons part next parts⟩
      refine ⟨[], ?_⟩
      rw [hrest, takeWhile_enclose hpart, Sql.scanned_open_name]
      rfl

theorem toList_discoverySql (spec : Spec) :
    (Sql.discoverySql spec).toList = Sql.spaced ["SELECT", "DISTINCT"] ++
      (Text.Quoted.enclose '"' spec.pivot.toList ++ ((' ' :: Sql.spaced ["FROM"]) ++
        Sql.partsText (Sql.splitDots spec.source.toList))) := by
  unfold Sql.discoverySql
  simp [Sql.spaced, Sql.toList_quoteName, Sql.toList_quoteTable]

theorem takeWhile_spaced {list : List String} (h : (Sql.spaced list).all isRead = true)
    (chars : List Char) :
    (Sql.spaced list ++ chars).takeWhile isRead = Sql.spaced list ++ chars.takeWhile isRead :=
  List.takeWhile_append_of_pos (List.all_eq_true.1 h)

theorem scanned_discoverySql_open {spec : Spec} (h : ¬ IsWhole spec.pivot.toList) :
    Sql.scanned (readPart (Sql.discoverySql spec)) =
      Sql.words ["SELECT", "DISTINCT"] ++ [.broken] := by
  rw [readPart, toList_discoverySql, takeWhile_spaced (by decide), takeWhile_enclose h,
    Sql.scanned_spaced (by decide) (Sql.begins_cons (by decide) _), Sql.scanned_open_name]
  rfl

theorem scanned_discoverySql_cut {spec : Spec} (hpivot : IsWhole spec.pivot.toList)
    (hsource : ¬ IsWhole spec.source.toList) :
    ∃ names, Sql.scanned (readPart (Sql.discoverySql spec)) =
      Sql.words ["SELECT", "DISTINCT"] ++ [.name spec.pivot] ++ Sql.words ["FROM"] ++
        Reader.cutTokens names := by
  have hparts : ∃ part ∈ Sql.splitDots spec.source.toList, ¬ IsWhole part := by
    rw [IsWhole, not_not, ← Sql.mem_splitDots (by decide)] at hsource
    obtain ⟨part, hpart, hnul⟩ := hsource
    exact ⟨part, hpart, not_not.2 hnul⟩
  obtain ⟨names, hnames⟩ := exists_scanned_cut hparts
  have hname : ∀ c ∈ Text.Quoted.enclose '"' spec.pivot.toList, isRead c = true := by
    rw [← Sql.toList_quoteName]
    exact isRead_of_isWhole (isWhole_quoteName.2 hpivot)
  obtain ⟨tail, htail⟩ := Sql.partsText_eq_quote (Sql.splitDots_ne_nil spec.source.toList)
  have hbegins : Sql.Begins
      ((Sql.partsText (Sql.splitDots spec.source.toList)).takeWhile isRead) := by
    rw [htail]
    exact Sql.begins_cons (by decide) _
  refine ⟨names, ?_⟩
  have hfrom (chars : List Char) : ((' ' :: Sql.spaced ["FROM"]) ++ chars).takeWhile isRead =
      (' ' :: Sql.spaced ["FROM"]) ++ chars.takeWhile isRead :=
    congrArg (' ' :: ·) (takeWhile_spaced (by decide) chars)
  rw [readPart, toList_discoverySql, takeWhile_spaced (by decide),
    List.takeWhile_append_of_pos hname, hfrom,
    Sql.scanned_spaced (by decide) (Sql.begins_quoted _ _), List.cons_append,
    Sql.scanned_name _ (Sql.isBreak_cons (by decide) _),
    Sql.scanned_blank (Sql.begins_spaced (by decide) hbegins),
    Sql.scanned_spaced (by decide) hbegins, hnames]
  simp [Sql.words]

/-- A discovery that is read has no NUL in the names of its column and its table: it would be cut
off inside a quoted name. -/
theorem isWhole_of_read_discoverySql {spec : Spec} {command : Command} {behind : List Char}
    (hread : Command.read (Sql.discoverySql spec) = .ok (command, behind)) :
    IsWhole spec.pivot.toList ∧ IsWhole spec.source.toList := by
  by_cases hpivot : IsWhole spec.pivot.toList
  · refine ⟨hpivot, ?_⟩
    by_contra hsource
    obtain ⟨names, hnames⟩ := scanned_discoverySql_cut hpivot hsource
    refine (read_of_scanned (p := fun _ => False) ?_ hread).1
    rw [hnames]
    exact (Reader.takes_statement_cut (fun h => Reader.takes_distinct h) names).mono
      fun _ hfalse => hfalse.elim
  · refine (read_of_scanned (p := fun _ => False) ?_ hread).1.elim
    rw [scanned_discoverySql_open hpivot]
    exact Reader.takes_distinct_broken

/-- What a discovery is read as, if it is read. -/
theorem read_discoverySql {spec : Spec} {command : Command} {behind : List Char}
    (hread : Command.read (Sql.discoverySql spec) = .ok (command, behind)) :
    ∃ table : TableName, table.Refers spec.source ∧ ∃ operand : Operand,
      operand.IsQuoted spec.pivot ∧ command = .distinct operand table := by
  obtain ⟨hpivot, hsource⟩ := isWhole_of_read_discoverySql hread
  have hwhole : IsWhole (Sql.discoverySql spec).toList := by
    unfold Sql.discoverySql
    simp only [String.toList_append, isWhole_append, isWhole_quoteName, isWhole_quoteTable]
    exact ⟨⟨⟨by simp [IsWhole], hpivot⟩, by simp [IsWhole]⟩, hsource⟩
  refine (read_of_takes hwhole (p := fun command => ∃ table : TableName,
    table.Refers spec.source ∧ ∃ operand : Operand, operand.IsQuoted spec.pivot ∧
      command = .distinct operand table) ?_ hread).1
  rw [Sql.tokens_discoverySql]
  exact Reader.takes_statement fun h => Reader.takes_distinct h

end Crosstab.Engine

import Crosstab.Proofs.Engine.Creation

/-!
# Queries for whole tables

The query for a whole table is read as that and answered with all rows of the table that its name
stands for, as records.

    name ──wholeTableSql──▶ text ──read──▶ wholeTable ──named?──▶ table ──records──▶ answer
-/

namespace Crosstab.Engine

open Sql (Lexeme Token)
open Store (QueryResult)

/-! ### Reading -/

section

variable {name : String}

/-- The tokens of the query for a whole table. -/
def wholeTableTokens (name : String) : List Token :=
  Sql.words ["SELECT"] ++ [.mark "*"] ++ Sql.words ["FROM"] ++ Sql.tableTokens name

/-- A star in front of a blank. -/
theorem scanned_star (rest : List Char) :
    Sql.scanned ('*' :: ' ' :: rest) = .mark "*" :: Sql.scanned (' ' :: rest) :=
  Sql.scanned_cons (Sql.begins_cons (by decide) _) rfl (by simp)

theorem tokens_wholeTableSql (name : String) :
    Sql.tokens (Sql.wholeTableSql name) = wholeTableTokens name := by
  have htext : (Sql.wholeTableSql name).toList = Sql.spaced ["SELECT"] ++
      '*' :: ' ' :: (Sql.spaced ["FROM"] ++ ((Sql.quoteTable name).toList ++ [])) := by
    unfold Sql.wholeTableSql
    simp [Sql.spaced]
  have hstar (rest : List Char) : Sql.Begins ('*' :: rest) := Sql.begins_cons (by decide) rest
  rw [Sql.tokens_eq, htext, Sql.scanned_spaced (by decide) (hstar _), scanned_star,
    Sql.scanned_blank (Sql.begins_spaced (by decide) (Sql.begins_quoteTable _ _)),
    Sql.scanned_spaced (by decide) (Sql.begins_quoteTable _ _),
    Sql.scanned_quoteTable _ Sql.isBreak_nil, Sql.scanned_nil]
  simp [wholeTableTokens, Sql.words]

theorem statement_of_wholeTableTokens (href : (tableRef? name).isSome = true)
    {lexemes : List Lexeme} (htokens : lexemes.map Lexeme.token = wholeTableTokens name) :
    ∃ table, Reader.statement lexemes = .ok ((.wholeTable table, []), []) ∧
      table.Refers name := by
  obtain ⟨s₁, b₁, _, rfl, h₁⟩ := exists_lexeme_of_map_eq_cons htokens
  obtain ⟨s₂, b₂, _, rfl, h₂⟩ := exists_lexeme_of_map_eq_cons h₁
  obtain ⟨s₃, b₃, rest, rfl, h₃⟩ := exists_lexeme_of_map_eq_cons h₂
  replace h₃ : rest.map Lexeme.token = Sql.tableTokens name := h₃
  -- with its places named, a list of lexemes is short enough to be read by computation
  rcases tableTokens_cases name with ⟨table, hsome, hname⟩ | ⟨qualifier, table, hsome, hname⟩ |
    ⟨hnone, -⟩
  · rw [hname] at h₃
    obtain ⟨s₄, b₄, _, rfl, h₄⟩ := exists_lexeme_of_map_eq_cons h₃
    obtain rfl := List.map_eq_nil_iff.1 h₄
    exact ⟨_, rfl, hsome⟩
  · rw [hname] at h₃
    obtain ⟨s₄, b₄, _, rfl, h₄⟩ := exists_lexeme_of_map_eq_cons h₃
    obtain ⟨s₅, b₅, _, rfl, h₅⟩ := exists_lexeme_of_map_eq_cons h₄
    obtain ⟨s₆, b₆, _, rfl, h₆⟩ := exists_lexeme_of_map_eq_cons h₅
    obtain rfl := List.map_eq_nil_iff.1 h₆
    exact ⟨_, rfl, hsome⟩
  · rw [hnone] at href
    cases href

/-- The query for a whole name that refers to a table is read as that. -/
theorem read_wholeTableSql (hwhole : IsWhole name.toList)
    (href : (tableRef? name).isSome = true) :
    ∃ table, Command.read (Sql.wholeTableSql name) = .ok (.wholeTable table, []) ∧
      table.Refers name := by
  have hsql : IsWhole (Sql.wholeTableSql name).toList := by
    rw [Sql.wholeTableSql, String.toList_append, isWhole_append, isWhole_quoteTable]
    exact ⟨by simp [IsWhole], hwhole⟩
  obtain ⟨table, hstatement, hrefers⟩ :=
    statement_of_wholeTableTokens href (tokens_wholeTableSql name)
  refine ⟨table, ?_, hrefers⟩
  unfold Command.read
  rw [readPart_eq hsql, unreadPart_eq hsql, StateT.run, hstatement]
  rfl

theorem target?_wholeTableSql (name : String) :
    Command.target? (Sql.wholeTableSql name) = none := by
  have htext : (Sql.wholeTableSql name).toList =
      "SELECT".toList ++ ' ' :: ("* FROM ".toList ++ (Sql.quoteTable name).toList) := by
    unfold Sql.wholeTableSql
    simp
  exact target?_eq_none (scanned_readPart (by decide) (by decide) htext) (by decide)

end

/-! ### Records -/

/-- The record of a row: each of its cells as JSON, under the name of its column. -/
def Table.record (table : Table) (row : List Cell) : Except StoreError Json := do
  let names := table.columns.map Column.name
  let cells ← (names.zip row).mapM fun entry => entry.2.toJson entry.1
  return QueryResult.record names cells

/-- The records of all rows, if every cell has a JSON value. -/
def Table.records (table : Table) : Except StoreError (List Json) := table.rows.mapM table.record

theorem shownRows_relation (table : Table) :
    table.relation.shownRows = table.rows.map (List.take table.columns.length) := by
  have hrows : (numbered table.rows).map Row.cells = table.rows := by
    unfold numbered
    rw [List.map_map]
    exact List.zipIdx_map_fst 0 table.rows
  calc table.relation.shownRows
      = ((numbered table.rows).map Row.cells).map (List.take table.columns.length) := by
        rw [List.map_map]
        rfl
    _ = table.rows.map (List.take table.columns.length) := by rw [hrows]

/-- Cells without a column do not count. -/
theorem zip_take {α β : Type} (names : List α) (row : List β) :
    names.zip (row.take names.length) = names.zip row := by
  induction names generalizing row with
  | nil => rfl
  | cons name names ih =>
    cases row with
    | nil => rfl
    | cons cell row => simp [ih]

/-- The records of an answer are those of the table. -/
theorem toRecords_jsonRows (table : Table) :
    (jsonRows (table.columns.map Column.name) table.relation.shownRows).map
      (fun rows => (⟨table.columns.map Column.name, rows⟩ : QueryResult).toRecords) =
      table.records := by
  rw [shownRows_relation, Table.records]
  have hlength : table.columns.length = (table.columns.map Column.name).length := by simp
  induction table.rows with
  | nil => rfl
  | cons row rows ih =>
    rw [List.mapM_cons, ← ih, Table.record, List.map_cons, jsonRows, hlength, zip_take]
    generalize ((table.columns.map Column.name).zip row).mapM
      (fun entry : String × Cell => entry.2.toJson entry.1) = cells
    generalize jsonRows (table.columns.map Column.name)
      (rows.map (List.take (table.columns.map Column.name).length)) = shown
    cases cells <;> cases shown <;> rfl

/-! ### Answers -/

section

variable {catalog : Catalog} {name : String} {table : Table}

theorem query_wholeTable (hwhole : IsWhole name.toList)
    (husable : catalog.state.isUsable = true) (hnamed : catalog.named? name = some table) :
    (query (Sql.wholeTableSql name) catalog).map QueryResult.toRecords = table.records := by
  have href : (tableRef? name).isSome = true := by
    obtain ⟨ref, href, -⟩ := Option.bind_eq_some_iff.1 hnamed
    rw [href]
    rfl
  obtain ⟨written, hread, hrefers⟩ := read_wholeTableSql hwhole href
  have hprepare : prepare catalog (Sql.wholeTableSql name) =
      .ok (.answer (table.columns.map Column.name) table.relation.shownRows, []) := by
    refine prepare_eq_ok_iff.2 ⟨?_, _, hread, ?_⟩
    · intro target htarget
      rw [target?_wholeTableSql] at htarget
      cases htarget
    · unfold check
      rw [checkFile_eq_ok_iff.2 husable]
      dsimp only [bind, Except.bind]
      rw [findSource_of_named hnamed hrefers]
      rfl
  rw [query, hprepare, ← toRecords_jsonRows]
  show (jsonRows _ _ >>= fun rows => pure (⟨_, rows⟩ : QueryResult)).map QueryResult.toRecords = _
  rcases jsonRows (table.columns.map Column.name) table.relation.shownRows with cause | rows <;> rfl

/-- The store answers the query for a whole table with the records of the table. -/
theorem store_query_wholeTable (hwhole : IsWhole name.toList)
    (husable : catalog.state.isUsable = true) (hnamed : catalog.named? name = some table) :
    (Store.query (Sql.wholeTableSql name) catalog).1.map QueryResult.toRecords = table.records := by
  have hsame := sameTables_noting catalog (Sql.wholeTableSql name)
  rw [← hsame.state_eq] at husable
  rw [← hsame.named?_eq] at hnamed
  exact query_wholeTable hwhole husable hnamed

end

end Crosstab.Engine

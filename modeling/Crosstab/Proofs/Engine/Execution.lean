import Crosstab.Proofs.Engine.Commands
import Crosstab.Proofs.Engine.Tables

/-!
# Executing the statements of a run

What an execution that succeeds has gone through, and what the first word of a statement decides:
only `CREATE` has a target to check, and all that it can do is add a table to `temp`.
-/

namespace Crosstab.Engine

open Sql (Lexeme Token)

/-! ### Success -/

/-- Steps that may fail succeed as a whole if each does. -/
theorem bind_eq_ok_iff {ε α β : Type} {first : Except ε α} {next : α → Except ε β} {value : β} :
    first >>= next = .ok value ↔ ∃ middle, first = .ok middle ∧ next middle = .ok value := by
  rcases first with cause | middle
  · simp [bind, Except.bind]
  · simp [bind, Except.bind]

section

variable {catalog after : Catalog} {sql : String} {plan : Plan} {behind : List Char}

theorem checkFile_eq_ok_iff : checkFile catalog = .ok () ↔ catalog.state.isUsable = true := by
  unfold checkFile FileState.isUsable
  cases catalog.state <;> simp

theorem check_drop_eq_ok_iff {name : TableName} :
    check catalog sql (.drop name) = .ok plan ↔
      catalog.state.isUsable = true ∧ planDrop catalog name = .ok plan := by
  unfold check
  rw [bind_eq_ok_iff]
  constructor
  · rintro ⟨⟨⟩, hfile, hplan⟩
    exact ⟨checkFile_eq_ok_iff.1 hfile, hplan⟩
  · rintro ⟨husable, hplan⟩
    exact ⟨(), checkFile_eq_ok_iff.2 husable, hplan⟩

theorem check_createPivot_eq_ok {target : TableName} {query : PivotQuery}
    (h : check catalog sql (.createPivot target query) = .ok plan) :
    ∃ relation, findSource catalog true query.source = .ok relation ∧
      ∃ table, pivotTable sql target.table.text query relation = .ok table ∧
        plan = Plan.reading relation (.create table) := by
  unfold check at h
  obtain ⟨⟨⟩, -, h⟩ := bind_eq_ok_iff.1 h
  obtain ⟨relation, hrelation, h⟩ := bind_eq_ok_iff.1 h
  obtain ⟨table, htable, h⟩ := bind_eq_ok_iff.1 h
  cases h
  exact ⟨relation, hrelation, table, htable, rfl⟩

theorem check_distinct_eq_ok {operand : Operand} {name : TableName}
    (h : check catalog sql (.distinct operand name) = .ok plan) :
    ∃ relation, findSource catalog false name = .ok relation ∧
      ∃ source, Source.ofOperand sql relation operand = .ok source ∧
        plan = Plan.reading relation (.answer [(resultColumn relation operand source).name]
          ((distinctColumn relation source).map fun cell => [cell])) := by
  unfold check at h
  obtain ⟨⟨⟩, -, h⟩ := bind_eq_ok_iff.1 h
  obtain ⟨relation, hrelation, h⟩ := bind_eq_ok_iff.1 h
  obtain ⟨source, hsource, h⟩ := bind_eq_ok_iff.1 h
  cases h
  exact ⟨relation, hrelation, source, hsource, rfl⟩

/-- Only the creation of a pivot table plans to create one. -/
theorem check_eq_create {command : Command} {table : Table}
    (h : check catalog sql command = .ok (.create table)) :
    ∃ target query relation, command = .createPivot target query ∧
      findSource catalog true query.source = .ok relation ∧
      pivotTable sql target.table.text query relation = .ok table := by
  have hreading {relation : Relation} {plan : Plan}
      (h : Plan.reading relation plan = .create table) : plan = .create table := by
    unfold Plan.reading at h
    split at h
    · cases h
    · exact h
  -- every other command plans something else
  cases command with
  | drop name =>
    have hplan := (check_drop_eq_ok_iff.1 h).2
    unfold planDrop at hplan
    split at hplan <;> cases hplan
  | distinct operand name =>
    obtain ⟨relation, -, source, -, hplan⟩ := check_distinct_eq_ok h
    cases hreading hplan.symm
  | wholeTable name =>
    unfold check at h
    obtain ⟨⟨⟩, -, h⟩ := bind_eq_ok_iff.1 h
    obtain ⟨relation, -, hplan⟩ := bind_eq_ok_iff.1 h
    cases hreading (Except.ok.inj hplan)
  | createPivot target query =>
    obtain ⟨relation, hrelation, found, hfound, hplan⟩ := check_createPivot_eq_ok h
    cases hreading hplan.symm
    exact ⟨target, query, relation, rfl, hrelation, hfound⟩

/-- The target of a statement, if it has one, can be created. -/
def TargetIsFree (catalog : Catalog) (sql : String) : Prop :=
  ∀ target, Command.target? sql = some target → checkTarget catalog sql target = .ok ()

/-- Behind its target, a statement is read and then checked. -/
theorem readChecked_eq_ok_iff :
    (do
      let (command, behind) ← Command.read sql
      return (← check catalog sql command, behind)) = .ok (plan, behind) ↔
      ∃ command, Command.read sql = .ok (command, behind) ∧
        check catalog sql command = .ok plan := by
  rw [bind_eq_ok_iff]
  constructor
  · rintro ⟨⟨command, rest⟩, hcommand, hplan⟩
    obtain ⟨found, hcheck, hplan⟩ := bind_eq_ok_iff.1 hplan
    cases hplan
    exact ⟨command, hcommand, hcheck⟩
  · rintro ⟨command, hcommand, hcheck⟩
    exact ⟨_, hcommand, bind_eq_ok_iff.2 ⟨plan, hcheck, rfl⟩⟩

theorem prepare_eq_ok_iff :
    prepare catalog sql = .ok (plan, behind) ↔ TargetIsFree catalog sql ∧
      ∃ command, Command.read sql = .ok (command, behind) ∧
        check catalog sql command = .ok plan := by
  rw [← readChecked_eq_ok_iff]
  unfold prepare TargetIsFree
  rcases Command.target? sql with _ | target
  · simp
  · rcases htarget : checkTarget catalog sql target with cause | _
    · simp [htarget, bind, Except.bind]
    · simp [htarget, bind, Except.bind]

theorem execute_eq_ok_iff :
    execute sql catalog = .ok after ↔
      ∃ plan, prepare catalog sql = .ok (plan, []) ∧ plan.perform catalog = .ok after := by
  unfold execute
  rcases prepare catalog sql with cause | ⟨plan, _ | ⟨c, behind⟩⟩
  · simp [bind, Except.bind]
  · simp [bind, Except.bind]
  · simp [bind, Except.bind, throw, throwThe, MonadExceptOf.throw]

theorem query_eq_ok {result : Store.QueryResult} (h : query sql catalog = .ok result) :
    ∃ plan behind, prepare catalog sql = .ok (plan, behind) ∧
      ((∃ columns rows shown, plan = .answer columns rows ∧ jsonRows columns rows = .ok shown ∧
        result = ⟨columns, shown⟩) ∨ ((∀ columns rows, plan ≠ .answer columns rows) ∧
          (∀ cause, plan ≠ .failing cause) ∧ result = .empty)) := by
  unfold query at h
  obtain ⟨⟨plan, behind⟩, hprepare, h⟩ := bind_eq_ok_iff.1 h
  have hprepared : prepare catalog sql = .ok (plan, behind) := by
    rcases hfound : prepare catalog sql with cause | found
    · rw [hfound] at hprepare
      cases hprepare
    · rw [hfound] at hprepare
      cases hprepare
      rfl
  refine ⟨plan, behind, hprepared, ?_⟩
  cases plan with
  | answer columns rows =>
    obtain ⟨shown, hshown, h⟩ := bind_eq_ok_iff.1 h
    cases h
    exact .inl ⟨columns, rows, shown, rfl, hshown, rfl⟩
  | failing cause => cases h
  | _ =>
    cases h
    exact .inr ⟨by simp, by simp, rfl⟩

/-- A text that is executed has been read as a whole. -/
theorem isWhole_of_execute (h : execute sql catalog = .ok after) : IsWhole sql.toList := by
  obtain ⟨plan, hprepare, -⟩ := execute_eq_ok_iff.1 h
  obtain ⟨-, command, hread, -⟩ := prepare_eq_ok_iff.1 hprepare
  refine isWhole_of_unreadPart ?_
  unfold Command.read at hread
  split at hread
  · next command behind _ _ =>
    obtain ⟨-, hbehind⟩ := Prod.mk.inj (Except.ok.inj hread)
    exact (List.append_eq_nil_iff.1 hbehind).2
  · cases hread

/-- The store executes a statement on what it has noted before. -/
theorem store_execute (sql : String) (catalog : Catalog) :
    Store.execute sql catalog = match execute sql (catalog.noting sql) with
      | .ok after => (.ok (), after)
      | .error cause => (.error (.engine cause), catalog.noting sql) := rfl

theorem execute_eq_ok_of_store (h : Store.execute sql catalog = (.ok (), after)) :
    execute sql (catalog.noting sql) = .ok after := by
  rw [store_execute] at h
  rcases hexecute : execute sql (catalog.noting sql) with cause | found
  · rw [hexecute] at h
    cases h
  · rw [hexecute] at h
    cases h
    rfl

theorem eq_noting_of_store {cause : StoreError}
    (h : Store.execute sql catalog = (.error cause, after)) : after = catalog.noting sql := by
  rw [store_execute] at h
  rcases hexecute : execute sql (catalog.noting sql) with cause | found
  · rw [hexecute] at h
    cases h
    rfl
  · rw [hexecute] at h
    cases h

end

/-! ### Tables by written names -/

/-- The table that a name in a spec stands for: a table of `temp` or `main`, or one of the database
in front of the point. -/
def Catalog.named? (catalog : Catalog) (name : String) : Option Table :=
  (tableRef? name).bind fun ref => catalog.table? ref.1 ref.2

theorem SameTables.named?_eq {catalog after : Catalog} (h : SameTables catalog after)
    (name : String) : after.named? name = catalog.named? name := by
  unfold Catalog.named?
  simp only [h.table?_eq]

/-- A statement that refers to a created table reads that table. -/
theorem findSource_of_named {catalog : Catalog} {name : String} {table : Table}
    (h : catalog.named? name = some table) {written : TableName} (hrefers : written.Refers name)
    (creating : Bool) : findSource catalog creating written = .ok table.relation := by
  obtain ⟨⟨qualifier, found⟩, href, htable⟩ := Option.bind_eq_some_iff.1 h
  rw [TableName.Refers, href, Option.some_inj, Prod.mk.injEq] at hrefers
  obtain ⟨schema, hfind⟩ := Catalog.find?_of_table htable
  rw [findSource, ← hrefers.1, ← hrefers.2, hfind]
  rfl

/-! ### First words -/

/-- A word that is a text's first is also the first of what is read. -/
theorem scanned_readPart {sql word : String} (hword : Sql.isIdentifier word.toList = true)
    (hwhole : word.toList.all isRead = true) {rest : List Char}
    (htext : sql.toList = word.toList ++ ' ' :: rest) :
    Sql.scanned (readPart sql) = .word word :: Sql.scanned ((' ' :: rest).takeWhile isRead) := by
  have hbreak : Sql.IsBreak ((' ' :: rest).takeWhile isRead) := Sql.isBreak_cons (by decide) _
  have hscanned := Sql.scanned_word hword hbreak
  rwa [String.ofList_toList, ← List.takeWhile_append_of_pos (List.all_eq_true.1 hwhole),
    ← htext] at hscanned

theorem target?_eq_none {sql : String} {spelling : String} {tokens : List Token}
    (htokens : Sql.scanned (readPart sql) = .word spelling :: tokens)
    (hword : Text.sameButCase spelling "CREATE" = false) : Command.target? sql = none := by
  obtain ⟨start, behind, rest, hscan, -⟩ := exists_lexeme_of_map_eq_cons htokens
  unfold Command.target?
  rw [hscan]
  simp [StateT.run, Reader.bind_eq, Reader.keyword, Reader.item, hword]

/-- What is read behind `CREATE` creates something. -/
theorem createCommand_eq_ok {lexemes rest : List Lexeme} {command : Command}
    (h : Reader.createCommand lexemes = .ok (command, rest)) :
    ∃ target between query, Reader.createTarget lexemes = .ok (target, between) ∧
      command = .createPivot target query := by
  obtain ⟨target, between, htarget, hquery⟩ := Reader.bind_eq_ok_iff.1 h
  obtain ⟨query, behind, -, hreturn⟩ := Reader.bind_eq_ok_iff.1 hquery
  cases hreturn
  exact ⟨target, between, query, htarget, rfl⟩

theorem read_eq_ok_of_create {sql : String} {tokens : List Token}
    (htokens : Sql.scanned (readPart sql) = .word "CREATE" :: tokens) {command : Command}
    {behind : List Char} (h : Command.read sql = .ok (command, behind)) :
    ∃ target query, command = .createPivot target query ∧ Command.target? sql = some target := by
  obtain ⟨start, after, rest, hscan, -⟩ := exists_lexeme_of_map_eq_cons htokens
  unfold Command.read at h
  split at h
  · next found left lexemes hstatement =>
    obtain ⟨rfl, -⟩ := Prod.mk.inj (Except.ok.inj h)
    rw [hscan] at hstatement
    obtain ⟨created, between, hcommand, hend⟩ := Reader.bind_eq_ok_iff.1 hstatement
    obtain ⟨_, _, -, hreturn⟩ := Reader.bind_eq_ok_iff.1 hend
    cases hreturn
    -- the first word alone chooses the reader behind it
    have hcreate : Reader.createCommand rest = .ok (found, between) := hcommand
    obtain ⟨target, _, query, htarget, rfl⟩ := createCommand_eq_ok hcreate
    have hreader : (do
        Reader.keyword "CREATE"
        Reader.createTarget : Reader TableName).run (Lexeme.scan (readPart sql)) =
        Reader.createTarget rest := by
      rw [hscan]
      rfl
    refine ⟨target, query, rfl, ?_⟩
    unfold Command.target?
    dsimp only
    rw [hreader, htarget]
  · cases h

end Crosstab.Engine

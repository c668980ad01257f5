import Crosstab.Proofs.Run.Course
import Crosstab.Proofs.Sql.Statement
import Crosstab.Store.Recording

/-!
# The calls of a run

Whatever a store answers, a run makes its calls in one order and stops at the first failure:

    DROP TABLE IF EXISTS target ──▶ SELECT DISTINCT pivot … ──▶ CREATE TEMP TABLE target …

A dry run makes the second call only, and a text that is no directive leads to no call at all. The
main statement, `runDirective_calls`, says which calls are made, when there are fewer than three,
and whose error the run ends with. It holds of every store, because a traced store passes each
call on and only writes it down.
-/

namespace Crosstab

open Store (QueryResult Call Traced)
open Run

variable {σ : Type} [Store σ]

/-! ### The three calls -/

/-- The call that drops the target. -/
def dropCall (spec : Spec) : Call := .execute (Sql.dropSql (Sql.quoteTable spec.target))

/-- The call that asks for the values. -/
def discoveryCall (spec : Spec) : Call := .query (Sql.discoverySql spec)

/-- The call that creates the target. -/
def createCall (statement : Sql.Statement) : Call := .execute statement.sql

/-- The answer to the drop, and the store behind it. -/
def dropAnswer (spec : Spec) (store : σ) : Except StoreError Unit × σ :=
  Store.execute (Sql.dropSql (Sql.quoteTable spec.target)) store

/-- The answer to the discovery query, and the store behind it. -/
def discoveryAnswer (spec : Spec) (store : σ) : Except StoreError QueryResult × σ :=
  Store.query (Sql.discoverySql spec) store

/-- The answer to the creation, and the store behind it. -/
def createAnswer (statement : Sql.Statement) (store : σ) : Except StoreError Unit × σ :=
  Store.execute statement.sql store

/-- The values and the statement that an answer to the discovery query leads to: the first failure
among the answer itself, its cells and the names of the columns. -/
def assembled (spec : Spec) (options : Options) (answer : Except StoreError QueryResult) :
    Except Error (ValueSet × Sql.Statement) :=
  match answer with
  | .error cause => .error (.store cause)
  | .ok result =>
    match ValueSet.ofResult spec.pivot result with
    | .error cause => .error (.store cause)
    | .ok values =>
      match Sql.build spec options.dialect options.naming values with
      | .error cause => .error (.statement cause)
      | .ok statement => .ok (values, statement)

/-- Why nothing can be assembled: the query failed, or a cell is no value, or there is no
statement for the values. -/
inductive Unassembled (spec : Spec) (options : Options) :
    Except StoreError QueryResult → Error → Prop where
  | query (cause) : Unassembled spec options (.error cause) (.store cause)
  | cell {result cause} (h : ValueSet.ofResult spec.pivot result = .error cause) :
    Unassembled spec options (.ok result) (.store cause)
  | statement {result values cause} (hcells : ValueSet.ofResult spec.pivot result = .ok values)
    (h : Sql.build spec options.dialect options.naming values = .error cause) :
    Unassembled spec options (.ok result) (.statement cause)

theorem unassembled_iff {spec : Spec} {options : Options} {answer} {error : Error} :
    Unassembled spec options answer error ↔ assembled spec options answer = .error error := by
  constructor
  · intro h
    cases h with
    | query cause => rfl
    | cell h => simp only [assembled, h]
    | statement hcells h => simp only [assembled, hcells, h]
  · intro h
    rcases answer with cause | result
    · cases h
      exact .query cause
    · rcases hcells : ValueSet.ofResult spec.pivot result with cause | values
      · simp only [assembled, hcells] at h
        cases h
        exact .cell hcells
      · rcases hbuild : Sql.build spec options.dialect options.naming values with cause | statement
        · simp only [assembled, hcells, hbuild] at h
          cases h
          exact .statement hcells hbuild
        · simp only [assembled, hcells, hbuild] at h
          cases h

theorem assembled_eq_ok {spec : Spec} {options : Options} {answer} {values : ValueSet}
    {statement : Sql.Statement} (h : assembled spec options answer = .ok (values, statement)) :
    ∃ result, answer = .ok result ∧ ValueSet.ofResult spec.pivot result = .ok values ∧
      Sql.build spec options.dialect options.naming values = .ok statement := by
  rcases answer with cause | result
  · cases h
  · rcases hcells : ValueSet.ofResult spec.pivot result with cause | found
    · simp only [assembled, hcells] at h
      cases h
    · rcases hbuild : Sql.build spec options.dialect options.naming found with cause | made
      · simp only [assembled, hcells, hbuild] at h
        cases h
      · simp only [assembled, hcells, hbuild] at h
        cases h
        exact ⟨result, rfl, hcells, hbuild⟩

/-- Where something can be assembled, the values have been discovered. -/
theorem discover_of_assembled {spec : Spec} {options : Options} {store discovered : σ} {answer}
    {values : ValueSet} {statement : Sql.Statement}
    (hdiscovery : discoveryAnswer spec store = (answer, discovered))
    (h : assembled spec options answer = .ok (values, statement)) :
    (Store.discover spec store).1 = .ok values := by
  obtain ⟨result, rfl, hvalues, -⟩ := assembled_eq_ok h
  show (discoveryAnswer spec store).1.bind (ValueSet.ofResult spec.pivot) = .ok values
  rw [hdiscovery]
  exact hvalues

/-! ### Ends -/

/-- Discovering and assembling, then going on: what the answer to the query decides. -/
theorem course_discovered {β : Type} (spec : Spec) (options : Options)
    (next : ValueSet → Sql.Statement → σ → Except Error β × σ) (store : σ) :
    andThen (ofCall (Store.discover spec)) (fun values =>
        andThen (fun store => (built spec options values, store)) (next values)) store =
      match assembled spec options (discoveryAnswer spec store).1 with
      | .ok (values, statement) => next values statement (discoveryAnswer spec store).2
      | .error error => (.error error, (discoveryAnswer spec store).2) := by
  simp only [andThen, ofCall, Store.discover, discoveryAnswer]
  rcases Store.query (Sql.discoverySql spec) store with ⟨cause | result, after⟩
  · rfl
  · rcases hcells : ValueSet.ofResult spec.pivot result with cause | values
    · simp only [assembled, Except.bind, mapError_error, hcells]
    · rcases hbuild : Sql.build spec options.dialect options.naming values with cause | statement
      · simp only [assembled, built, Except.bind, mapError_ok, mapError_error, hcells, hbuild]
      · simp only [assembled, built, Except.bind, mapError_ok, hcells, hbuild]

/-- The ends that a real run can come to, each with its answer and the store that it leaves. -/
inductive RealEnd (spec : Spec) (options : Options) (store : σ) : Except Error Report × σ → Prop where
  | dropFailed {cause after} (hdrop : dropAnswer spec store = (.error cause, after)) :
    RealEnd spec options store (.error (.store cause), after)
  | unassembled {dropped answer discovered error} (hdrop : dropAnswer spec store = (.ok (), dropped))
    (hdiscovery : discoveryAnswer spec dropped = (answer, discovered))
    (h : assembled spec options answer = .error error) :
    RealEnd spec options store (.error error, discovered)
  | createFailed {dropped answer discovered values statement cause after}
    (hdrop : dropAnswer spec store = (.ok (), dropped))
    (hdiscovery : discoveryAnswer spec dropped = (answer, discovered))
    (hassembled : assembled spec options answer = .ok (values, statement))
    (hcreate : createAnswer statement discovered = (.error cause, after)) :
    RealEnd spec options store (.error (.store cause), after)
  | created {dropped answer discovered values statement after}
    (hdrop : dropAnswer spec store = (.ok (), dropped))
    (hdiscovery : discoveryAnswer spec dropped = (answer, discovered))
    (hassembled : assembled spec options answer = .ok (values, statement))
    (hcreate : createAnswer statement discovered = (.ok (), after)) :
    RealEnd spec options store (.ok (Report.on spec options values statement), after)

theorem realEnd_course (spec : Spec) {options : Options} (hreal : options.dryRun = false)
    (store : σ) : RealEnd spec options store (course spec options store) := by
  unfold course
  rw [dropped_of_real hreal, andThen, ofCall, Store.dropTable]
  rcases hdrop : Store.execute (Sql.dropSql (Sql.quoteTable spec.target)) store with
    ⟨cause | done, dropped⟩
  · exact .dropFailed hdrop
  simp only [mapError_ok, course_discovered]
  rcases hdiscovery : discoveryAnswer spec dropped with ⟨answer, discovered⟩
  rcases hassembled : assembled spec options answer with error | ⟨values, statement⟩
  · exact .unassembled hdrop hdiscovery hassembled
  simp only [created_of_real hreal, andThen, ofCall]
  rcases hcreate : Store.execute statement.sql discovered with ⟨cause | made, after⟩
  · exact .createFailed hdrop hdiscovery hassembled hcreate
  · exact .created hdrop hdiscovery hassembled hcreate

theorem course_created {spec : Spec} {options : Options} (hreal : options.dryRun = false)
    {store dropped discovered after : σ} {answer} {values : ValueSet} {statement : Sql.Statement}
    (hdrop : dropAnswer spec store = (.ok (), dropped))
    (hdiscovery : discoveryAnswer spec dropped = (answer, discovered))
    (hassembled : assembled spec options answer = .ok (values, statement))
    (hcreate : createAnswer statement discovered = (.ok (), after)) :
    course spec options store = (.ok (Report.on spec options values statement), after) := by
  have hdrop' : Store.dropTable (Sql.quoteTable spec.target) store = (.ok (), dropped) := hdrop
  have hcreate' : Store.execute statement.sql discovered = (.ok (), after) := hcreate
  unfold course
  rw [dropped_of_real hreal, andThen, ofCall, hdrop']
  simp only [mapError_ok, course_discovered, hdiscovery, hassembled]
  rw [created_of_real hreal, andThen, ofCall, hcreate']
  rfl

theorem course_dry (spec : Spec) {options : Options} (hdry : options.dryRun = true) (store : σ) :
    course spec options store = ((assembled spec options (discoveryAnswer spec store).1).map
      (fun found => Report.on spec options found.1 found.2), (discoveryAnswer spec store).2) := by
  unfold course
  rw [dropped_of_dry hdry, andThen, ofCall]
  simp only [mapError_ok, course_discovered]
  rcases assembled spec options (discoveryAnswer spec store).1 with error | ⟨values, statement⟩
  · rfl
  · simp only [created_of_dry hdry, andThen, ofCall, mapError_ok]
    rfl

/-! ### Outcomes -/

/-- The ends that a real run can come to, each with its answer and the calls made until then. -/
inductive RealOutcome (spec : Spec) (options : Options) (store : σ) :
    Except Error Report → List Call → Prop where
  | dropFailed {cause} (hdrop : (dropAnswer spec store).1 = .error cause) :
    RealOutcome spec options store (.error (.store cause)) [dropCall spec]
  | unassembled {error} (hdrop : (dropAnswer spec store).1 = .ok ())
    (h : Unassembled spec options (discoveryAnswer spec (dropAnswer spec store).2).1 error) :
    RealOutcome spec options store (.error error) [dropCall spec, discoveryCall spec]
  | createFailed {values statement cause} (hdrop : (dropAnswer spec store).1 = .ok ())
    (hassembled : assembled spec options (discoveryAnswer spec (dropAnswer spec store).2).1 =
      .ok (values, statement))
    (hcreate : (createAnswer statement
      (discoveryAnswer spec (dropAnswer spec store).2).2).1 = .error cause) :
    RealOutcome spec options store (.error (.store cause))
      [dropCall spec, discoveryCall spec, createCall statement]
  | created {values statement} (hdrop : (dropAnswer spec store).1 = .ok ())
    (hassembled : assembled spec options (discoveryAnswer spec (dropAnswer spec store).2).1 =
      .ok (values, statement))
    (hcreate : (createAnswer statement
      (discoveryAnswer spec (dropAnswer spec store).2).2).1 = .ok ()) :
    RealOutcome spec options store (.ok (Report.on spec options values statement))
      [dropCall spec, discoveryCall spec, createCall statement]

/-- A store without a record of calls. -/
def Store.Traced.fresh (store : σ) : Traced σ := ⟨store, []⟩

theorem realOutcome_course (spec : Spec) {options : Options} (hreal : options.dryRun = false)
    (store : σ) :
    RealOutcome spec options store (course spec options (Traced.fresh store)).1
      (course spec options (Traced.fresh store)).2.calls := by
  have hend := realEnd_course spec hreal (Traced.fresh store)
  generalize course spec options (Traced.fresh store) = last at hend ⊢
  -- each call of a traced store is the call of the store below, written down
  cases hend with
  | dropFailed hdrop =>
    obtain ⟨hdropped, rfl⟩ := Prod.mk.inj hdrop
    exact .dropFailed hdropped
  | unassembled hdrop hdiscovery h =>
    obtain ⟨hdropped, rfl⟩ := Prod.mk.inj hdrop
    obtain ⟨rfl, rfl⟩ := Prod.mk.inj hdiscovery
    exact .unassembled hdropped (unassembled_iff.2 h)
  | createFailed hdrop hdiscovery hassembled hcreate =>
    obtain ⟨hdropped, rfl⟩ := Prod.mk.inj hdrop
    obtain ⟨rfl, rfl⟩ := Prod.mk.inj hdiscovery
    obtain ⟨hcreated, rfl⟩ := Prod.mk.inj hcreate
    exact .createFailed hdropped hassembled hcreated
  | created hdrop hdiscovery hassembled hcreate =>
    obtain ⟨hdropped, rfl⟩ := Prod.mk.inj hdrop
    obtain ⟨rfl, rfl⟩ := Prod.mk.inj hdiscovery
    obtain ⟨hcreated, rfl⟩ := Prod.mk.inj hcreate
    exact .created hdropped hassembled hcreated

theorem course_of_dry (spec : Spec) {options : Options} (hdry : options.dryRun = true) (store : σ) :
    (course spec options (Traced.fresh store)).1 =
        (assembled spec options (discoveryAnswer spec store).1).map
          (fun found => Report.on spec options found.1 found.2) ∧
      (course spec options (Traced.fresh store)).2.calls = [discoveryCall spec] := by
  rw [course_dry spec hdry]
  exact ⟨rfl, rfl⟩

/-! ### The three calls differ -/

theorem head_dropSql (table : String) : (Sql.dropSql table).toList.head? = some 'D' := by
  rw [Sql.toList_dropSql]
  simp

theorem head_build {spec : Spec} {dialect : Sql.Dialect} {naming : Sql.ColumnNaming}
    {values : ValueSet} {statement : Sql.Statement}
    (h : Sql.build spec dialect naming values = .ok statement) :
    statement.sql.toList.head? = some 'C' := by
  obtain ⟨rest, hheader⟩ : ∃ rest, (Sql.header spec dialect).toList =
      "CREATE TEMP TABLE ".toList ++ rest := by
    unfold Sql.header
    simp only [String.toList_append, List.append_assoc]
    exact ⟨_, rfl⟩
  rw [Sql.toList_sql_of_build h, hheader, List.append_assoc]
  simp

/-- The first letter tells the creation from the drop. -/
theorem dropCall_ne_createCall {spec : Spec} {dialect : Sql.Dialect} {naming : Sql.ColumnNaming}
    {values : ValueSet} {statement : Sql.Statement}
    (h : Sql.build spec dialect naming values = .ok statement) :
    dropCall spec ≠ createCall statement := by
  intro hsame
  obtain hsql : Sql.dropSql (Sql.quoteTable spec.target) = statement.sql := Call.execute.inj hsame
  have := head_dropSql (Sql.quoteTable spec.target)
  rw [hsql, head_build h] at this
  cases this

theorem nodup_calls {spec : Spec} {options : Options} {answer} {values : ValueSet}
    {statement : Sql.Statement} (h : assembled spec options answer = .ok (values, statement)) :
    [dropCall spec, discoveryCall spec, createCall statement].Nodup := by
  obtain ⟨-, -, -, hbuild⟩ := assembled_eq_ok h
  have hdiffer := dropCall_ne_createCall hbuild
  simp [dropCall, discoveryCall, createCall] at hdiffer ⊢
  exact hdiffer

/-! ### Traced runs -/

/-- A function on traced stores does what a function on the stores below them does. -/
def Traces {α : Type} (traced : Traced σ → Except Error α × Traced σ)
    (plain : σ → Except Error α × σ) : Prop :=
  ∀ store, (traced store).1 = (plain store.store).1 ∧
    (traced store).2.store = (plain store.store).2

section Traces

variable {α β : Type}

omit [Store σ] in
theorem Traces.andThen {first second} {next : α → Traced σ → Except Error β × Traced σ}
    {plain : α → σ → Except Error β × σ} (hfirst : Traces first second)
    (hnext : ∀ value, Traces (next value) (plain value)) :
    Traces (Run.andThen first next) (Run.andThen second plain) := by
  intro store
  obtain ⟨hanswer, hstore⟩ := hfirst store
  simp only [Run.andThen]
  rcases hrun : first store with ⟨answer, after⟩
  rcases hplain : second store.store with ⟨expected, below⟩
  rw [hrun, hplain] at hanswer hstore
  obtain rfl : answer = expected := hanswer
  obtain rfl : after.store = below := hstore
  rcases answer with error | value
  · exact ⟨rfl, rfl⟩
  · exact hnext value after

omit [Store σ] in
theorem traces_ofCall {action : Traced σ → Except StoreError α × Traced σ}
    {plain : σ → Except StoreError α × σ}
    (h : ∀ store, (action store).1 = (plain store.store).1 ∧
      (action store).2.store = (plain store.store).2) :
    Traces (ofCall action) (ofCall plain) := by
  intro store
  obtain ⟨hanswer, hstore⟩ := h store
  exact ⟨by rw [ofCall, ofCall, hanswer], hstore⟩

end Traces

theorem traces_course (spec : Spec) (options : Options) :
    Traces (course spec options) (course spec options : σ → _) := by
  refine Traces.andThen (traces_ofCall fun store => ?_) fun _ => ?_
  · simp only [dropped]
    split <;> exact ⟨rfl, rfl⟩
  refine Traces.andThen (traces_ofCall fun store => ⟨rfl, rfl⟩) fun values => ?_
  refine Traces.andThen (fun store => ⟨rfl, rfl⟩) fun statement => ?_
  refine Traces.andThen (traces_ofCall fun store => ?_) fun _ store => ⟨rfl, rfl⟩
  simp only [created]
  split <;> exact ⟨rfl, rfl⟩

theorem traces_directiveCourse (text : String) (options : Options) :
    Traces (directiveCourse text options) (directiveCourse text options : σ → _) := by
  unfold directiveCourse
  rcases Directive.parse text with cause | directive
  · cases cause <;> exact fun store => ⟨rfl, rfl⟩
  · exact Traces.andThen (traces_course directive.spec options) fun report store => ⟨rfl, rfl⟩

/-! ### Directives -/

/-- What a run of a directive answers, and the calls that it makes on the way. -/
def recorded (text : String) (options : Options) (store : σ) :
    Except Error (Option Report) × List Call :=
  let result := (runDirective text options).start (Traced.fresh store)
  (result.1, result.2.store.calls)

/-- A run whose calls are written down answers as the run itself does. -/
theorem recorded_answer (text : String) (options : Options) (store : σ) :
    (recorded text options store).1 = ((runDirective text options).start store).1 := by
  obtain ⟨htraced, -⟩ := (follows_runDirective text options).start (Traced.fresh store)
  obtain ⟨hplain, -⟩ := (follows_runDirective text options).start store
  obtain ⟨hsame, -⟩ := traces_directiveCourse text options (Traced.fresh store)
  exact htraced.trans (hsame.trans hplain.symm)

/-- A report is what an answer to the discovery query decides. -/
structure Reports (spec : Spec) (options : Options) (answer : Except StoreError QueryResult)
    (report : Report) : Prop where
  assembled_eq : ∃ statement, assembled spec options answer = .ok (report.values, statement) ∧
    report.sql = statement.sql ∧ report.columns = statement.columns
  executed_eq : report.executed = !options.dryRun

/-- What is to hold of the calls of a dry run: there is one, and the answer to it decides all. -/
structure DryCalls (spec : Spec) (options : Options) (store : σ)
    (answer : Except Error (Option Report)) (calls : List Call) : Prop where
  calls_eq : calls = [discoveryCall spec]
  error_iff : ∀ error, answer = .error error ↔
    Unassembled spec options (discoveryAnswer spec store).1 error
  reports : ∀ found, answer = .ok found → ∃ report, found = some report ∧
    Reports spec options (discoveryAnswer spec store).1 report

/-- What is to hold of the calls of a real run: they are made in order, each once, until a step
fails, and the answer wraps the error of that step. -/
structure RealCalls (spec : Spec) (options : Options) (store : σ)
    (answer : Except Error (Option Report)) (calls : List Call) : Prop where
  ne_nil : calls ≠ []
  isPrefix : ∃ create, calls <+: [dropCall spec, discoveryCall spec, .execute create]
  nodup : calls.Nodup
  /-- The drop fails. -/
  length_eq_one : calls.length = 1 ↔ ∃ cause, (dropAnswer spec store).1 = .error cause
  /-- The query fails, or a cell is unsupported, or there is no statement. -/
  length_eq_two : calls.length = 2 ↔ (dropAnswer spec store).1 = .ok () ∧
    ∃ error, Unassembled spec options (discoveryAnswer spec (dropAnswer spec store).2).1 error
  length_eq_three : calls.length = 3 ↔ (dropAnswer spec store).1 = .ok () ∧
    ¬ ∃ error, Unassembled spec options (discoveryAnswer spec (dropAnswer spec store).2).1 error
  /-- The error of the step that fails, and no other. -/
  error_iff : ∀ error, answer = .error error ↔
    (∃ cause, (dropAnswer spec store).1 = .error cause ∧ error = .store cause) ∨
    ((dropAnswer spec store).1 = .ok () ∧
      Unassembled spec options (discoveryAnswer spec (dropAnswer spec store).2).1 error) ∨
    ((dropAnswer spec store).1 = .ok () ∧ ∃ values statement cause,
      assembled spec options (discoveryAnswer spec (dropAnswer spec store).2).1 =
        .ok (values, statement) ∧
      (createAnswer statement (discoveryAnswer spec (dropAnswer spec store).2).2).1 =
        .error cause ∧ error = .store cause)
  third : ∀ values statement, calls.length = 3 →
    assembled spec options (discoveryAnswer spec (dropAnswer spec store).2).1 =
      .ok (values, statement) → calls[2]? = some (createCall statement)
  reports : ∀ found, answer = .ok found → ∃ report, found = some report ∧
    Reports spec options (discoveryAnswer spec (dropAnswer spec store).2).1 report ∧
    calls[2]? = some (.execute report.sql)

theorem realCalls_of_outcome {spec : Spec} {options : Options} {store : σ}
    {answer : Except Error Report} {calls : List Call}
    (h : RealOutcome spec options store answer calls) :
    RealCalls spec options store (answer.map some) calls := by
  -- one case for each way in which a run can end
  cases h with
  | @dropFailed cause hdrop =>
    refine ⟨by simp, ⟨"", ⟨_, rfl⟩⟩, by simp, ?_, ?_, ?_, ?_, ?_, ?_⟩
    · simp [hdrop]
    · simp [hdrop]
    · simp [hdrop]
    · intro error
      simp [Except.map, hdrop, eq_comm]
    · simp
    · intro found hfound
      cases hfound
  | @unassembled error hdrop hfailed =>
    have hnone : assembled spec options (discoveryAnswer spec (dropAnswer spec store).2).1 =
        .error error := unassembled_iff.1 hfailed
    refine ⟨by simp, ⟨"", ⟨_, rfl⟩⟩, by simp [dropCall, discoveryCall], ?_, ?_, ?_, ?_, ?_, ?_⟩
    · simp [hdrop]
    · simpa [hdrop] using ⟨error, hfailed⟩
    · simpa [hdrop] using ⟨error, hfailed⟩
    · intro other
      simp [Except.map, hdrop, hnone, unassembled_iff]
    · simp
    · intro found hfound
      cases hfound
  | @createFailed values statement cause hdrop hassembled hcreate =>
    refine ⟨by simp, ⟨statement.sql, ⟨[], by simp [createCall]⟩⟩, nodup_calls hassembled,
      ?_, ?_, ?_, ?_, ?_, ?_⟩
    · simp [hdrop]
    · simp [hdrop, unassembled_iff, hassembled]
    · simp [hdrop, unassembled_iff, hassembled]
    · intro error
      simp only [Except.map, hdrop, unassembled_iff, hassembled]
      constructor
      · intro h
        exact .inr (.inr
          ⟨trivial, values, statement, cause, rfl, hcreate, (Except.error.inj h).symm⟩)
      · rintro (⟨_, h, -⟩ | ⟨-, h⟩ | ⟨-, _, _, other, hmade, hother, rfl⟩)
        · cases h
        · cases h
        · cases hmade
          rw [hcreate] at hother
          cases hother
          rfl
    · intro others made _ hmade
      rw [hassembled] at hmade
      cases hmade
      rfl
    · intro found hfound
      cases hfound
  | @created values statement hdrop hassembled hcreate =>
    refine ⟨by simp, ⟨statement.sql, ⟨[], by simp [createCall]⟩⟩, nodup_calls hassembled,
      ?_, ?_, ?_, ?_, ?_, ?_⟩
    · simp [hdrop]
    · simp [hdrop, unassembled_iff, hassembled]
    · simp [hdrop, unassembled_iff, hassembled]
    · intro error
      simp [Except.map, hdrop, unassembled_iff, hassembled, hcreate]
    · intro others made _ hmade
      rw [hassembled] at hmade
      cases hmade
      rfl
    · intro found hfound
      cases hfound
      exact ⟨_, rfl, ⟨⟨statement, hassembled, rfl, rfl⟩, rfl⟩, rfl⟩

theorem dryCalls_of_course {spec : Spec} {options : Options} (hdry : options.dryRun = true)
    (store : σ) :
    DryCalls spec options store
      ((course spec options (Traced.fresh store)).1.map some)
      (course spec options (Traced.fresh store)).2.calls := by
  obtain ⟨hanswer, hcalls⟩ := course_of_dry spec hdry store
  rw [hanswer, hcalls]
  refine ⟨rfl, fun error => ?_, fun found hfound => ?_⟩
  · rw [unassembled_iff]
    rcases assembled spec options (discoveryAnswer spec store).1 with cause | found
    · simp [Except.map]
    · simp [Except.map]
  · rcases hassembled : assembled spec options (discoveryAnswer spec store).1 with
      cause | ⟨values, statement⟩
    · rw [hassembled] at hfound
      cases hfound
    · rw [hassembled] at hfound
      cases hfound
      exact ⟨_, rfl, ⟨statement, hassembled, rfl, rfl⟩, rfl⟩

/-- **Calls of a run.** Writing the calls down changes no answer. A text that is no directive leads
to no call; otherwise a dry run asks for the values and does nothing else, and a real run drops,
asks and creates, in this order and up to the first failure. -/
theorem runDirective_calls (text : String) (options : Options) (store : σ) :
    (recorded text options store).1 = ((runDirective text options).start store).1 ∧
    match Directive.parse text with
    | .error (.missing _) => recorded text options store = (.ok none, [])
    | .error cause => recorded text options store = (.error (.directive cause), [])
    | .ok directive =>
      if options.dryRun then
        DryCalls directive.spec options store (recorded text options store).1
          (recorded text options store).2
      else
        RealCalls directive.spec options store (recorded text options store).1
          (recorded text options store).2 := by
  refine ⟨recorded_answer text options store, ?_⟩
  obtain ⟨hanswer, hstore⟩ := (follows_runDirective text options).start (Traced.fresh store)
  have hrecorded : recorded text options store =
      ((directiveCourse text options (Traced.fresh store)).1,
        (directiveCourse text options (Traced.fresh store)).2.calls) := by
    rw [recorded, hanswer, hstore]
  rw [hrecorded, directiveCourse]
  rcases Directive.parse text with cause | directive
  · cases cause <;> rfl
  have hcourse : andThen (course directive.spec options)
      (fun report store => (.ok (some report), store)) (Traced.fresh store) =
      ((course directive.spec options (Traced.fresh store)).1.map some,
        (course directive.spec options (Traced.fresh store)).2) := by
    rw [andThen]
    rcases course directive.spec options (Traced.fresh store) with ⟨error | report, after⟩ <;> rfl
  simp only [hcourse]
  split
  · next hdry => exact dryCalls_of_course hdry store
  · next hreal =>
    exact realCalls_of_outcome (realOutcome_course directive.spec (by simpa using hreal) store)

end Crosstab

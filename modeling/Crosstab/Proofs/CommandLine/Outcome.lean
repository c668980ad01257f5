import Crosstab.Proofs.CommandLine.Settings
import Crosstab.Proofs.Engine.WholeTable
import Crosstab.Proofs.Run.Creation

/-!
# Outcomes

A command that runs a directive resolves its options, then its database, and only then runs the
directive. There are seven ways for that to end, each with its code and its output; what can be
said of the outcomes of commands is read off them.

    options ──▶ path ──▶ store ──▶ directive run ──▶ output
       │          │        │          │    │           │
       1          1        1          1    2           0, or 1 if rows cannot be shown
-/

namespace Crosstab

open Engine

namespace CommandLine

/-! ### Tasks -/

/-- A directive that a command is to run. -/
structure Task where
  directive : String
  settings : Settings
  dryRun : Bool

/-- What a command is to run. -/
def Invocation.task? : Invocation → Option Task
  | .sql directive settings => some ⟨directive, settings, true⟩
  | .run directive settings => some ⟨directive, settings, false⟩
  | _ => none

namespace Task

variable {σ : Type}

/-- The options and the database of a task are resolved, and the database is open. -/
structure Starts (task : Task) (openStore : OpenStore σ) (environment : Environment)
    (options : Options) (path : String) (store : σ) : Prop where
  options_eq : task.settings.options environment task.dryRun = .ok options
  path_eq : task.settings.path? environment = some path
  store_eq : openStore path = .ok store

/-- What is said when a database is opened. -/
def opening (path : String) : String := s!"🗄️  Database: {path}\n"

/-- What is said when there is none. -/
def noDatabase : String := s!"No database given (use --db or set {Options.databaseVariable})"

section

variable [Store σ] {openStore : OpenStore σ} {environment : Environment} {task : Task}
  {finish : Report → σ → Except StoreError (String × String) × σ}

/-- The ways for a task to end once its directive is run. -/
inductive Ran (task : Task) (options : Options) (path : String) (store : σ)
    (finish : Report → σ → Except StoreError (String × String) × σ) : Outcome σ → Prop
  | failed {error : Error} {session : Session σ}
    (hrun : (runDirective task.directive options).start store = (.error error, session)) :
    Ran task options path store finish
      (.failed (opening path ++ logLines session.log) error.message (some (path, session.store)))
  | lacking {session : Session σ}
    (hrun : (runDirective task.directive options).start store = (.ok none, session)) :
    Ran task options path store finish
      ⟨2, "", opening path ++ logLines session.log, some (path, session.store)⟩
  | unfinished {after : σ} {report : Report} {session : Session σ} {cause : StoreError}
    (hrun : (runDirective task.directive options).start store = (.ok (some report), session))
    (hfinish : finish report session.store = (.error cause, after)) :
    Ran task options path store finish
      (.failed (opening path ++ logLines session.log) cause.message (some (path, after)))
  | finished {after : σ} {report : Report} {session : Session σ} {output ending : String}
    (hrun : (runDirective task.directive options).start store = (.ok (some report), session))
    (hfinish : finish report session.store = (.ok (output, ending), after)) :
    Ran task options path store finish
      ⟨0, output, opening path ++ logLines session.log ++ ending, some (path, after)⟩

/-- The ways for a task to end, in the order in which its steps can fail. -/
inductive Ends (openStore : OpenStore σ) (environment : Environment) (task : Task)
    (finish : Report → σ → Except StoreError (String × String) × σ) : Outcome σ → Prop
  | misnamed {cause : ConfigError}
    (hoptions : task.settings.options environment task.dryRun = .error cause) :
    Ends openStore environment task finish (.failed "" (Error.config cause).message none)
  | pathless {options : Options}
    (hoptions : task.settings.options environment task.dryRun = .ok options)
    (hpath : task.settings.path? environment = none) :
    Ends openStore environment task finish (.failed "" noDatabase none)
  | closed {options : Options} {path : String} {cause : StoreError}
    (hoptions : task.settings.options environment task.dryRun = .ok options)
    (hpath : task.settings.path? environment = some path)
    (hstore : openStore path = .error cause) :
    Ends openStore environment task finish (.failed (opening path) cause.message none)
  | ran {options : Options} {path : String} {store : σ} {outcome : Outcome σ}
    (hstarts : task.Starts openStore environment options path store)
    (hran : task.Ran options path store finish outcome) :
    Ends openStore environment task finish outcome

theorem ends_runOn (openStore : OpenStore σ) (environment : Environment) (task : Task)
    (finish : Report → σ → Except StoreError (String × String) × σ) :
    task.Ends openStore environment finish
      (runOn openStore environment task.directive task.settings task.dryRun finish) := by
  unfold runOn
  rcases hoptions : task.settings.options environment task.dryRun with cause | options
  · exact .misnamed hoptions
  dsimp only
  rcases hpath : task.settings.path? environment with _ | path
  · exact .pathless hoptions hpath
  dsimp only
  rcases hstore : openStore path with cause | store
  · exact .closed hoptions hpath hstore
  dsimp only
  refine .ran ⟨hoptions, hpath, hstore⟩ ?_
  rcases hrun : (runDirective task.directive options).start store with
    ⟨error | _ | report, session⟩
  · exact .failed hrun
  · exact .lacking hrun
  dsimp only
  rcases hfinish : finish report session.store with ⟨cause | ⟨output, ending⟩, after⟩
  · exact .unfinished hrun hfinish
  · exact .finished hrun hfinish

variable {outcome : Outcome σ} {options : Options} {path : String} {store : σ}

/-- A task has one end. -/
theorem Ends.eq_runOn (h : task.Ends openStore environment finish outcome) :
    outcome = runOn openStore environment task.directive task.settings task.dryRun finish := by
  unfold runOn
  cases h with
  | misnamed hoptions => rw [hoptions]
  | pathless hoptions hpath =>
    rw [hoptions]
    dsimp only
    rw [hpath]
    rfl
  | closed hoptions hpath hstore =>
    rw [hoptions]
    dsimp only
    rw [hpath]
    dsimp only
    rw [hstore]
    rfl
  | ran hstarts hran =>
    rw [hstarts.options_eq]
    dsimp only
    rw [hstarts.path_eq]
    dsimp only
    rw [hstarts.store_eq]
    dsimp only
    cases hran with
    | failed hrun | lacking hrun =>
      rw [hrun]
      rfl
    | unfinished hrun hfinish | finished hrun hfinish =>
      rw [hrun]
      dsimp only
      rw [hfinish]
      rfl

/-- A task that starts ends in a run of its directive. -/
theorem Ends.ran_of_starts (h : task.Ends openStore environment finish outcome)
    (hstarts : task.Starts openStore environment options path store) :
    task.Ran options path store finish outcome := by
  cases h with
  | misnamed hoptions => cases hoptions.symm.trans hstarts.options_eq
  | pathless _ hpath => cases hpath.symm.trans hstarts.path_eq
  | closed _ hpath hstore =>
    obtain rfl := Option.some.inj (hpath.symm.trans hstarts.path_eq)
    cases hstore.symm.trans hstarts.store_eq
  | ran hother hran =>
    obtain rfl := Except.ok.inj (hother.options_eq.symm.trans hstarts.options_eq)
    obtain rfl := Option.some.inj (hother.path_eq.symm.trans hstarts.path_eq)
    obtain rfl := Except.ok.inj (hother.store_eq.symm.trans hstarts.store_eq)
    exact hran

/-! ### Codes and outputs of tasks -/

theorem Ends.code_cases (h : task.Ends openStore environment finish outcome) :
    outcome.code = 0 ∨ outcome.code = 1 ∨ outcome.code = 2 := by
  cases h with
  | ran _ hran => cases hran <;> simp [Outcome.failed]
  | _ => simp [Outcome.failed]

/-- Only a task that finishes has an output. -/
theorem Ends.output_eq (h : task.Ends openStore environment finish outcome)
    (hcode : outcome.code ≠ 0) : outcome.output = "" := by
  cases h with
  | ran _ hran =>
    cases hran with
    | finished => exact absurd rfl hcode
    | _ => rfl
  | _ => rfl

/-- A task ends with code 2 exactly if it starts with a directive that lacks keywords. -/
theorem Ends.code_eq_two_iff (h : task.Ends openStore environment finish outcome) :
    outcome.code = 2 ↔ ∃ options path store keywords,
      task.Starts openStore environment options path store ∧
        Directive.parse task.directive = .error (.missing keywords) := by
  constructor
  · intro hcode
    cases h with
    | ran hstarts hran =>
      cases hran with
      | lacking hrun =>
        obtain ⟨keywords, hparse⟩ := (start_runDirective_eq_none_iff _ _).1 (congrArg Prod.fst hrun)
        exact ⟨_, _, _, keywords, hstarts, hparse⟩
      | _ => exact absurd hcode (by simp [Outcome.failed])
    | _ => exact absurd hcode (by simp [Outcome.failed])
  · rintro ⟨options, path, store, keywords, hstarts, hparse⟩
    have hnone := (start_runDirective_eq_none_iff options store).2 ⟨keywords, hparse⟩
    cases h.ran_of_starts hstarts with
    | lacking => rfl
    | failed hrun | unfinished hrun | finished hrun =>
      rw [hrun] at hnone
      cases hnone

/-- The directive of a task is run, and that gives a report. -/
structure Runs (task : Task) (openStore : OpenStore σ) (environment : Environment)
    (options : Options) (path : String) (store : σ) (directive : Directive) (report : Report)
    (after : σ) : Prop where
  starts : task.Starts openStore environment options path store
  parse_eq : Directive.parse task.directive = .ok directive
  answer_eq : ((runSpec directive.spec options).start store).1 = .ok report
  after_eq : ((runSpec directive.spec options).start store).2.store = after

/-- What a task with code 0 has done. -/
theorem Ends.of_code_eq_zero (h : task.Ends openStore environment finish outcome)
    (hcode : outcome.code = 0) :
    ∃ options path store directive report reached ending after,
      task.Runs openStore environment options path store directive report reached ∧
        finish report reached = (.ok (outcome.output, ending), after) ∧
        outcome.database = some (path, after) := by
  cases h with
  | @ran options path store _ hstarts hran =>
    cases hran with
    | @finished after report session output ending hrun hfinish =>
      obtain ⟨directive, hparse, hanswer⟩ :=
        (start_runDirective_eq_some_iff _ _).1 (congrArg Prod.fst hrun)
      have hafter := (start_runDirective options store hparse).2
      rw [hrun] at hafter
      exact ⟨options, path, store, directive, report, session.store, ending, after,
        ⟨hstarts, hparse, hanswer, hafter.symm⟩, hfinish, rfl⟩
    | _ => exact absurd hcode (by simp [Outcome.failed])
  | _ => exact absurd hcode (by simp [Outcome.failed])

/-- A task whose directive gives a report ends with code 0 if it can be finished. -/
theorem Ends.code_eq_zero_of_runs (h : task.Ends openStore environment finish outcome)
    {reached : σ} {directive : Directive} {report : Report}
    (hruns : task.Runs openStore environment options path store directive report reached)
    (hfinish : ∃ result, (finish report reached).1 = .ok result) : outcome.code = 0 := by
  have hsome := (start_runDirective_eq_some_iff options store).2 ⟨directive, hruns.parse_eq, hruns.answer_eq⟩
  have hafter := (start_runDirective options store hruns.parse_eq).2
  rw [hruns.after_eq] at hafter
  cases h.ran_of_starts hruns.starts with
  | finished => rfl
  | failed hrun | lacking hrun =>
    rw [hrun] at hsome
    cases hsome
  | unfinished hrun hfails =>
    rw [hrun] at hsome hafter
    cases hsome
    obtain ⟨result, hresult⟩ := hfinish
    rw [← hafter, hfails] at hresult
    cases hresult

end

section

variable {openStore : OpenStore Catalog} {environment : Environment} {task : Task}
  {options : Options} {path : String} {catalog after : Catalog} {directive : Directive}
  {report : Report}

theorem Runs.sameTables
    (h : task.Runs openStore environment options path catalog directive report after)
    (hdry : task.dryRun = true) : SameTables catalog after := by
  obtain ⟨-, -, hoptions⟩ := Settings.of_options_eq_ok h.starts.options_eq
  rw [← h.after_eq]
  exact (runSpec_frame directive.spec options catalog).dry (hoptions.trans hdry)

/-- Showing the rows of a run's target gives the records of its table. -/
theorem Runs.exists_records
    (h : task.Runs openStore environment options path catalog directive report after)
    (hreal : task.dryRun = false) :
    ∃ table, after.named? directive.spec.target = some table ∧
      (printRows true report after).1 =
        table.records.map fun records => ((Json.array records).pretty ++ "\n", "\n✨ Done!\n") := by
  obtain ⟨-, -, hoptions⟩ := Settings.of_options_eq_ok h.starts.options_eq
  obtain ⟨hwhole, husable, table, hnamed⟩ :=
    exists_readable_target (hoptions.trans hreal) h.answer_eq h.after_eq
  refine ⟨table, hnamed, ?_⟩
  have hquery := store_query_wholeTable hwhole husable hnamed
  rw [printRows, if_pos rfl, spec_of_runSpec h.answer_eq, ← hquery]
  rcases Store.query (Sql.wholeTableSql directive.spec.target) after with
    ⟨cause | result, noted⟩ <;> rfl

end

end Task

/-! ### Commands -/

namespace Invocation

/-- What a command does with the report on its task. -/
def finish {σ : Type} [Store σ] :
    Invocation → Report → σ → Except StoreError (String × String) × σ
  | .run _ settings => printRows settings.showRows
  | _ => printStatement

theorem ends_outcome {σ : Type} [Store σ] (openStore : OpenStore σ) (environment : Environment)
    (invocation : Invocation) {task : Task} (h : invocation.task? = some task) :
    task.Ends openStore environment invocation.finish
      (invocation.outcome openStore environment) := by
  cases invocation with
  | sql | run =>
    cases h
    exact Task.ends_runOn openStore environment _ _
  | _ => cases h

theorem eq_of_ends {σ : Type} [Store σ] {openStore : OpenStore σ} {environment : Environment}
    {invocation : Invocation} {task : Task} {outcome : Outcome σ}
    (htask : invocation.task? = some task)
    (h : task.Ends openStore environment invocation.finish outcome) :
    invocation.outcome openStore environment = outcome :=
  (ends_outcome openStore environment invocation htask).eq_runOn.trans h.eq_runOn.symm

/-- Nothing about a command fails, and no keyword is missing. -/
inductive Succeeds (openStore : OpenStore Catalog) (environment : Environment) : Invocation → Prop
  | grammar : Succeeds openStore environment .grammar
  | help (topic : Topic) : Succeeds openStore environment (.help topic)
  | parse {text : String} {directive : Directive} (h : Directive.parse text = .ok directive) :
    Succeeds openStore environment (.parse text)
  | sql {text : String} {settings : Settings} {options : Options} {path : String}
    {catalog after : Catalog} {directive : Directive} {report : Report}
    (h : Task.Runs ⟨text, settings, true⟩ openStore environment options path catalog directive
      report after) : Succeeds openStore environment (.sql text settings)
  | run {text : String} {settings : Settings} {options : Options} {path : String}
    {catalog after : Catalog} {directive : Directive} {report : Report}
    (h : Task.Runs ⟨text, settings, false⟩ openStore environment options path catalog directive
      report after)
    (hshown : settings.showRows = true → ∃ table records,
      after.named? directive.spec.target = some table ∧ table.records = .ok records) :
    Succeeds openStore environment (.run text settings)

/-- A command starts to run a directive whose only fault is that it lacks keywords. -/
def Lacks (openStore : OpenStore Catalog) (environment : Environment) (invocation : Invocation) :
    Prop :=
  ∃ task options path catalog keywords, invocation.task? = some task ∧
    task.Starts openStore environment options path catalog ∧
    Directive.parse task.directive = .error (.missing keywords)

section

variable (openStore : OpenStore Catalog) (environment : Environment)

/-- A command without a task says what it has to say, or its directive cannot be read. -/
theorem taskless_cases {invocation : Invocation} (h : invocation.task? = none) :
    (invocation.outcome openStore environment).code = 0 ∨
      (invocation.outcome openStore environment).code = 1 ∧
        (invocation.outcome openStore environment).output = "" := by
  cases invocation with
  | grammar | help => exact .inl rfl
  | parse text =>
    rcases hparse : Directive.parse text with cause | directive
    · exact .inr (by simp [outcome, hparse, Outcome.failed])
    · exact .inl (by simp [outcome, hparse, Outcome.printed])
  | sql | run => cases h

theorem output_eq (invocation : Invocation)
    (hcode : (invocation.outcome openStore environment).code ≠ 0) :
    (invocation.outcome openStore environment).output = "" := by
  rcases htask : invocation.task? with _ | task
  · rcases taskless_cases openStore environment htask with hzero | ⟨-, houtput⟩
    · exact absurd hzero hcode
    · exact houtput
  · exact (ends_outcome openStore environment invocation htask).output_eq hcode

theorem code_eq_two_iff (invocation : Invocation) :
    (invocation.outcome openStore environment).code = 2 ↔
      invocation.Lacks openStore environment := by
  rcases htask : invocation.task? with _ | task
  · refine iff_of_false ?_ ?_
    · rcases taskless_cases openStore environment htask with hcode | ⟨hcode, -⟩ <;> simp [hcode]
    · rintro ⟨_, _, _, _, _, hsome, -⟩
      cases htask.symm.trans hsome
  · rw [(ends_outcome openStore environment invocation htask).code_eq_two_iff]
    constructor
    · rintro ⟨options, path, catalog, keywords, hstarts, hparse⟩
      exact ⟨task, options, path, catalog, keywords, htask, hstarts, hparse⟩
    · rintro ⟨other, options, path, catalog, keywords, hother, hstarts, hparse⟩
      obtain rfl := Option.some.inj (htask.symm.trans hother)
      exact ⟨options, path, catalog, keywords, hstarts, hparse⟩

theorem code_cases (invocation : Invocation) :
    (invocation.outcome openStore environment).code = 0 ∨
      (invocation.outcome openStore environment).code = 1 ∨
      (invocation.outcome openStore environment).code = 2 := by
  rcases htask : invocation.task? with _ | task
  · rcases taskless_cases openStore environment htask with hcode | ⟨hcode, -⟩
    · exact .inl hcode
    · exact .inr (.inl hcode)
  · exact (ends_outcome openStore environment invocation htask).code_cases

/-- A command with code 0 has done all that it does. -/
theorem succeeds_of_code_eq_zero {invocation : Invocation}
    (hcode : (invocation.outcome openStore environment).code = 0) :
    invocation.Succeeds openStore environment := by
  cases invocation with
  | sql text settings =>
    obtain ⟨_, _, _, _, _, _, _, _, hruns, -⟩ :=
      (ends_outcome openStore environment (.sql text settings) rfl).of_code_eq_zero hcode
    exact .sql hruns
  | run text settings =>
    obtain ⟨_, _, _, _, _, _, _, _, hruns, hfinish, -⟩ :=
      (ends_outcome openStore environment (.run text settings) rfl).of_code_eq_zero hcode
    refine .run hruns fun hshow => ?_
    obtain ⟨table, hnamed, hshown⟩ := hruns.exists_records rfl
    rw [finish, hshow] at hfinish
    rw [hfinish] at hshown
    rcases hrecords : table.records with cause | records
    · rw [hrecords] at hshown
      cases hshown
    · exact ⟨table, records, hnamed, hrecords⟩
  | grammar => exact .grammar
  | help topic => exact .help topic
  | parse text =>
    rcases hparse : Directive.parse text with cause | directive
    · simp [outcome, hparse, Outcome.failed] at hcode
    · exact .parse hparse

theorem Succeeds.code_eq {invocation : Invocation}
    (h : invocation.Succeeds openStore environment) :
    (invocation.outcome openStore environment).code = 0 := by
  cases h with
  | sql h =>
    exact (ends_outcome openStore environment _ rfl).code_eq_zero_of_runs h ⟨_, rfl⟩
  | @run text settings _ _ _ after _ report h hshown =>
    refine (ends_outcome openStore environment _ rfl).code_eq_zero_of_runs h ?_
    cases hshow : settings.showRows with
    | false =>
      rw [finish, hshow]
      exact ⟨_, rfl⟩
    | true =>
      obtain ⟨table, records, hnamed, hrecords⟩ := hshown hshow
      obtain ⟨other, hother, hprinted⟩ := h.exists_records rfl
      obtain rfl := Option.some.inj (hnamed.symm.trans hother)
      rw [finish, hshow, hprinted, hrecords]
      exact ⟨_, rfl⟩
  | grammar | help => rfl
  | parse hparse => simp [outcome, hparse, Outcome.printed]

/-- The database of a task that starts is, behind it, what the run of its directive leaves. -/
theorem exists_database {invocation : Invocation} {task : Task} {options : Options}
    {path : String} {catalog : Catalog} (htask : invocation.task? = some task)
    (hstarts : task.Starts openStore environment options path catalog) :
    ∃ after, (invocation.outcome openStore environment).database = some (path, after) ∧
      SameTables ((runDirective task.directive options).start catalog).2.store after := by
  -- what finishes a command asks at most a query
  have hsame (report : Report) (store : Catalog) :
      SameTables store (invocation.finish report store).2 := by
    unfold finish
    split
    · next settings =>
      cases hshow : settings.showRows with
      | false => exact .refl store
      | true => exact sameTables_noting store (Sql.wholeTableSql report.spec.target)
    · exact .refl store
  have hran := (ends_outcome openStore environment invocation htask).ran_of_starts hstarts
  generalize invocation.outcome openStore environment = outcome at hran ⊢
  cases hran with
  | failed hrun | lacking hrun =>
    rw [hrun]
    exact ⟨_, rfl, .refl _⟩
  | @unfinished after report session _ hrun hfinish
  | @finished after report session _ _ hrun hfinish =>
    have hkept := hsame report session.store
    rw [hfinish] at hkept
    rw [hrun]
    exact ⟨after, rfl, hkept⟩

/-- A statement is printed as it was built, and building it has changed nothing. -/
theorem statement_printed {text : String} {settings : Settings}
    (hcode : ((Invocation.sql text settings).outcome openStore environment).code = 0) :
    ∃ options path catalog directive report after,
      Task.Runs ⟨text, settings, true⟩ openStore environment options path catalog directive report
        after ∧
      ((Invocation.sql text settings).outcome openStore environment).output =
        report.sql ++ ";\n" ∧
      ((Invocation.sql text settings).outcome openStore environment).database =
        some (path, after) ∧
      SameTables catalog after := by
  obtain ⟨options, path, catalog, directive, report, reached, _, after, hruns, hfinish,
    hdatabase⟩ := (ends_outcome openStore environment _ rfl).of_code_eq_zero hcode
  obtain ⟨hprinted, rfl⟩ := Prod.mk.inj hfinish
  obtain ⟨houtput, -⟩ := Prod.mk.inj (Except.ok.inj hprinted)
  exact ⟨options, path, catalog, directive, report, reached, hruns, houtput.symm, hdatabase,
    hruns.sameTables rfl⟩

/-- Rows are shown as the records of all rows of the target. -/
theorem rows_printed {text : String} {settings : Settings} (hshow : settings.showRows = true)
    (hcode : ((Invocation.run text settings).outcome openStore environment).code = 0) :
    ∃ options path catalog directive report after table records,
      Task.Runs ⟨text, settings, false⟩ openStore environment options path catalog directive
        report after ∧
      after.named? directive.spec.target = some table ∧ table.records = .ok records ∧
      ((Invocation.run text settings).outcome openStore environment).output =
        (Json.array records).pretty ++ "\n" := by
  obtain ⟨options, path, catalog, directive, report, reached, ending, _, hruns, hfinish, -⟩ :=
    (ends_outcome openStore environment _ rfl).of_code_eq_zero hcode
  obtain ⟨table, hnamed, hprinted⟩ := hruns.exists_records rfl
  rw [finish, hshow] at hfinish
  rw [hfinish] at hprinted
  rcases hrecords : table.records with cause | records
  · rw [hrecords] at hprinted
    cases hprinted
  · rw [hrecords] at hprinted
    obtain ⟨houtput, -⟩ := Prod.mk.inj (Except.ok.inj hprinted)
    exact ⟨options, path, catalog, directive, report, reached, table, records, hruns, hnamed,
      hrecords, houtput⟩

end

/-- What can be relied on in the outcome of a command. -/
structure Accounts (openStore : OpenStore Catalog) (environment : Environment)
    (invocation : Invocation) (outcome : Outcome Catalog) : Prop where
  /-- Options come from the command line, from variables, or from the defaults. -/
  resolves : ∀ task, invocation.task? = some task →
    task.settings.Resolves environment task.dryRun
  /-- Without options nothing else is looked at, -/
  misnamed : ∀ task cause, invocation.task? = some task →
    task.settings.options environment task.dryRun = .error cause →
      outcome = .failed "" (Error.config cause).message none
  /-- then comes the path of the database, -/
  pathless : ∀ task options, invocation.task? = some task →
    task.settings.options environment task.dryRun = .ok options →
      task.settings.path? environment = none → outcome = .failed "" Task.noDatabase none
  /-- then the database, -/
  closed : ∀ task options path cause, invocation.task? = some task →
    task.settings.options environment task.dryRun = .ok options →
      task.settings.path? environment = some path → openStore path = .error cause →
        outcome = .failed (Task.opening path) cause.message none
  /-- and only then the directive is run on it. -/
  started : ∀ task options path catalog, invocation.task? = some task →
    task.Starts openStore environment options path catalog →
      ∃ after, outcome.database = some (path, after) ∧
        SameTables ((runDirective task.directive options).start catalog).2.store after
  two_iff : outcome.code = 2 ↔ invocation.Lacks openStore environment
  zero_iff : outcome.code = 0 ↔ invocation.Succeeds openStore environment
  one_iff : outcome.code = 1 ↔
    ¬ invocation.Lacks openStore environment ∧ ¬ invocation.Succeeds openStore environment
  silent : outcome.code ≠ 0 → outcome.output = ""
  statement : ∀ text settings, invocation = .sql text settings → outcome.code = 0 →
    ∃ options path catalog directive report after,
      Task.Runs ⟨text, settings, true⟩ openStore environment options path catalog directive report
        after ∧
      outcome.output = report.sql ++ ";\n" ∧ outcome.database = some (path, after) ∧
      SameTables catalog after
  rows : ∀ text settings, invocation = .run text settings → settings.showRows = true →
    outcome.code = 0 →
    ∃ options path catalog directive report after table records,
      Task.Runs ⟨text, settings, false⟩ openStore environment options path catalog directive
        report after ∧
      after.named? directive.spec.target = some table ∧ table.records = .ok records ∧
      outcome.output = (Json.array records).pretty ++ "\n"

/-- Every command accounts for its outcome: whatever it is, whatever the variables are set to, and
whatever is found where the database should be. -/
theorem outcome_accounts (openStore : OpenStore Catalog) (environment : Environment)
    (invocation : Invocation) :
    invocation.Accounts openStore environment (invocation.outcome openStore environment) := by
  have htwo := code_eq_two_iff openStore environment invocation
  have hzero : (invocation.outcome openStore environment).code = 0 ↔
      invocation.Succeeds openStore environment :=
    ⟨succeeds_of_code_eq_zero openStore environment, fun h => h.code_eq⟩
  refine {
    resolves := fun task _ => task.settings.resolves environment task.dryRun
    misnamed := fun _ _ htask hoptions => eq_of_ends htask (.misnamed hoptions)
    pathless := fun _ _ htask hoptions hpath => eq_of_ends htask (.pathless hoptions hpath)
    closed := fun _ _ _ _ htask hoptions hpath hstore =>
      eq_of_ends htask (.closed hoptions hpath hstore)
    started := fun _ _ _ _ => exists_database openStore environment
    two_iff := htwo
    zero_iff := hzero
    one_iff := ?one
    silent := output_eq openStore environment invocation
    statement := ?statement
    rows := ?rows }
  case one =>
    rw [← htwo, ← hzero]
    have hcases := code_cases openStore environment invocation
    constructor
    · intro hone
      simp [hone]
    · rintro ⟨hnottwo, hnotzero⟩
      exact (hcases.resolve_left hnotzero).resolve_right hnottwo
  case statement =>
    rintro text settings rfl hcode
    exact statement_printed openStore environment hcode
  case rows =>
    rintro text settings rfl hshow hcode
    exact rows_printed openStore environment hshow hcode

/-- An option of the command line does not stand in for a variable with an unknown name. -/
example (openStore : OpenStore Catalog) :
    ((Invocation.sql "" ⟨none, some .sqlite, none, false⟩).outcome openStore
      ⟨fun name => if name = Options.dialectVariable then some "db2" else none⟩).code = 1 := by
  rfl

end Invocation

end CommandLine

end Crosstab

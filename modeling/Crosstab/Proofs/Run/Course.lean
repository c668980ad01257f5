import Crosstab.Run

/-!
# The course of a run

A run logs at every step, and its log decides nothing. Without the log a run is a function on the
store alone: it gives an answer and the store that the calls leave,

    store ──drop──▶ store ──query──▶ store ──execute──▶ store
                                │
                                └─ the answer alone decides values and statement

`follows_runSpec` and `follows_runDirective` say that the steps of a session are that function, so
every property of answers and stores can be read off `course` and `directiveCourse`.
-/

namespace Crosstab

open Store (QueryResult)

variable {σ α β : Type}

/-! ### Runs without their log -/

namespace Run

/-- The steps do what a function does on the store, whatever has been logged before. -/
def Follows (steps : Run σ α) (course : σ → Except Error α × σ) : Prop :=
  ∀ session : Session σ, (steps.run session).1 = (course session.store).1 ∧
    (steps.run session).2.store = (course session.store).2

/-- The function of two steps in a row: the second goes on where the first leaves the store, unless
the first fails. -/
def andThen (first : σ → Except Error α × σ) (next : α → σ → Except Error β × σ) (store : σ) :
    Except Error β × σ :=
  match first store with
  | (.ok value, store) => next value store
  | (.error error, store) => (.error error, store)

/-- What a call does to the store, with its error as one of the run. -/
def ofCall (action : σ → Except StoreError α × σ) (store : σ) : Except Error α × σ :=
  ((action store).1.mapError .store, (action store).2)

theorem mapError_ok {ε δ : Type} (f : ε → δ) (value : α) :
    (Except.ok value : Except ε α).mapError f = .ok value := rfl

theorem mapError_error {ε δ : Type} (f : ε → δ) (cause : ε) :
    (Except.error cause : Except ε α).mapError f = .error (f cause) := rfl

theorem andThen_eq_ok {first : σ → Except Error α × σ} {next : α → σ → Except Error β × σ}
    {store after : σ} {value : β} (h : andThen first next store = (.ok value, after)) :
    ∃ middle between, first store = (.ok middle, between) ∧
      next middle between = (.ok value, after) := by
  unfold andThen at h
  split at h
  · next middle between hfirst => exact ⟨middle, between, hfirst, h⟩
  · cases h

theorem ofCall_eq_ok {action : σ → Except StoreError α × σ} {store after : σ} {value : α}
    (h : ofCall action store = (.ok value, after)) : action store = (.ok value, after) := by
  unfold ofCall at h
  obtain ⟨hanswer, rfl⟩ := Prod.mk.inj h
  rcases hcall : action store with ⟨cause | found, between⟩
  · rw [hcall] at hanswer
    cases hanswer
  · rw [hcall] at hanswer
    cases hanswer
    rfl

theorem run_bind (steps : Run σ α) (next : α → Run σ β) (session : Session σ) :
    (steps >>= next).run session =
      match steps.run session with
      | (.ok value, session) => (next value).run session
      | (.error error, session) => (.error error, session) := by
  show ExceptT.bindCont next (steps.run session).1 (steps.run session).2 = _
  cases steps.run session with
  | mk answer after => cases answer <;> rfl

theorem Follows.bind {steps : Run σ α} {next : α → Run σ β} {first second}
    (h : steps.Follows first) (hnext : ∀ value, (next value).Follows (second value)) :
    (steps >>= next).Follows (andThen first second) := by
  intro session
  obtain ⟨hanswer, hstore⟩ := h session
  rw [run_bind, andThen]
  cases hrun : steps.run session with
  | mk answer after =>
    cases hfirst : first session.store with
    | mk expected store =>
      rw [hrun, hfirst] at hanswer hstore
      obtain rfl : answer = expected := hanswer
      obtain rfl : after.store = store := hstore
      cases answer with
      | ok value => exact hnext value after
      | error error => exact ⟨rfl, rfl⟩

theorem follows_pure (value : α) :
    (pure value : Run σ α).Follows fun store => (.ok value, store) :=
  fun _ => ⟨rfl, rfl⟩

theorem follows_log (entry : Log.Entry) :
    (log entry : Run σ Unit).Follows fun store => (.ok (), store) :=
  fun _ => ⟨rfl, rfl⟩

theorem follows_fail (error : Error) :
    (fail error : Run σ α).Follows fun store => (.error error, store) :=
  fun _ => ⟨rfl, rfl⟩

theorem run_call (action : σ → Except StoreError α × σ) (session : Session σ) :
    (call action).run session =
      ((match (action session.store).1 with
        | .ok value => pure value
        | .error cause => fail (.store cause)) : Run σ α).run
          { session with store := (action session.store).2 } := rfl

theorem follows_call (action : σ → Except StoreError α × σ) :
    (call action).Follows (ofCall action) := by
  intro session
  rw [run_call, ofCall]
  cases action session.store with
  | mk answer store => cases answer <;> exact ⟨rfl, rfl⟩

/-- Logging in front of steps changes nothing about them. -/
theorem Follows.afterLog {next : Unit → Run σ α} {course} (entry : Log.Entry)
    (h : (next ()).Follows course) : (log entry >>= next).Follows course :=
  (follows_log entry).bind fun _ => h

/-- Steps in front of which something may be logged. -/
theorem Follows.maybeAfterLog {next : Unit → Run σ α} {course} (p : Prop) [Decidable p]
    (entry : Log.Entry) (h : (next ()).Follows course) :
    (if p then log entry >>= next else next ()).Follows course := by
  split
  · exact h.afterLog entry
  · exact h

/-- Steps that follow a function give its answer and its store from the start. -/
theorem Follows.start {steps : Run σ α} {course} (h : steps.Follows course) (store : σ) :
    (steps.start store).1 = (course store).1 ∧ (steps.start store).2.store = (course store).2 :=
  h ⟨store, []⟩

end Run

open Run

variable [Store σ]

/-! ### Specs -/

/-- What dropping the target gives; a dry run leaves it alone. -/
def dropped (spec : Spec) (options : Options) (store : σ) : Except StoreError Unit × σ :=
  if options.dryRun then (.ok (), store) else Store.dropTable (Sql.quoteTable spec.target) store

/-- What creating the target gives; a dry run does not create it. -/
def created (statement : Sql.Statement) (options : Options) (store : σ) :
    Except StoreError Unit × σ :=
  if options.dryRun then (.ok (), store) else Store.execute statement.sql store

/-- The statement for values, or why there is none. -/
def built (spec : Spec) (options : Options) (values : ValueSet) : Except Error Sql.Statement :=
  (Sql.build spec options.dialect options.naming values).mapError .statement

/-- The report on values and a statement. -/
def Report.on (spec : Spec) (options : Options) (values : ValueSet) (statement : Sql.Statement) :
    Report :=
  { spec, values
    sql := statement.sql
    columns := statement.columns
    executed := !options.dryRun }

/-- A run of a spec, without its log. -/
def course (spec : Spec) (options : Options) : σ → Except Error Report × σ :=
  andThen (ofCall (dropped spec options)) fun _ =>
    andThen (ofCall (Store.discover spec)) fun values =>
      andThen (fun store => (built spec options values, store)) fun statement =>
        andThen (ofCall (created statement options)) fun _ store =>
          (.ok (Report.on spec options values statement), store)

/-- What is left of a run of a spec behind the drop. -/
def courseBehindDrop (spec : Spec) (options : Options) : σ → Except Error Report × σ :=
  andThen (ofCall (Store.discover spec)) fun values =>
    andThen (fun store => (built spec options values, store)) fun statement =>
      andThen (ofCall (created statement options)) fun _ store =>
        (.ok (Report.on spec options values statement), store)

theorem course_of_dropped {spec : Spec} {options : Options} {store after : σ}
    (h : dropped spec options store = (.ok (), after)) :
    course spec options store = courseBehindDrop spec options after := by
  rw [course, andThen, ofCall, h]
  rfl

section Dry

variable {spec : Spec} {statement : Sql.Statement} {options : Options}

theorem dropped_of_dry (h : options.dryRun = true) :
    (dropped spec options : σ → _) = fun store => (.ok (), store) := by
  funext store
  rw [dropped, if_pos h]

theorem dropped_of_real (h : options.dryRun = false) :
    (dropped spec options : σ → _) = Store.dropTable (Sql.quoteTable spec.target) := by
  funext store
  rw [dropped, if_neg (by simp [h])]

theorem created_of_dry (h : options.dryRun = true) :
    (created statement options : σ → _) = fun store => (.ok (), store) := by
  funext store
  rw [created, if_pos h]

theorem created_of_real (h : options.dryRun = false) :
    (created statement options : σ → _) = Store.execute statement.sql := by
  funext store
  rw [created, if_neg (by simp [h])]

end Dry

/-- The steps of a run that succeeds. -/
theorem course_eq_ok {spec : Spec} {options : Options} {store after : σ} {report : Report}
    (h : course spec options store = (.ok report, after)) :
    ∃ behind discovered statement,
      dropped spec options store = (.ok (), behind) ∧
      Store.discover spec behind = (.ok report.values, discovered) ∧
      Sql.build spec options.dialect options.naming report.values = .ok statement ∧
      created statement options discovered = (.ok (), after) ∧
      report.columns = statement.columns := by
  obtain ⟨⟨⟩, behind, hdrop, h⟩ := andThen_eq_ok h
  obtain ⟨values, discovered, hdiscover, h⟩ := andThen_eq_ok h
  obtain ⟨statement, between, hbuild, hlast⟩ := andThen_eq_ok h
  obtain ⟨hbuilt, rfl⟩ := Prod.mk.inj hbuild
  obtain ⟨⟨⟩, last, hcreate, hreport⟩ := andThen_eq_ok hlast
  cases hreport
  refine ⟨behind, discovered, statement, ofCall_eq_ok hdrop, ofCall_eq_ok hdiscover, ?_,
    ofCall_eq_ok hcreate, rfl⟩
  unfold built at hbuilt
  rcases hfound : Sql.build spec options.dialect options.naming values with cause | found
  · rw [hfound] at hbuilt
    cases hbuilt
  · rw [hfound] at hbuilt
    cases hbuilt
    exact hfound

theorem follows_runSpec (spec : Spec) (options : Options) :
    (runSpec spec options : Run σ Report).Follows (course spec options) := by
  unfold runSpec course
  extract_lets discover
  -- the steps are followed from the last to the first
  have hdiscover : (discover ()).Follows (courseBehindDrop spec options) := by
    refine Follows.afterLog _ ?_
    refine (follows_call _).bind fun values => ?_
    refine Follows.afterLog _ ?_
    extract_lets create build
    have hcreate (statement : Sql.Statement) : (create statement).Follows
        (andThen (ofCall (created statement options)) fun _ store =>
          (.ok (Report.on spec options values statement), store)) := by
      refine Follows.afterLog _ ?_
      extract_lets report
      cases hdry : options.dryRun with
      | true =>
        rw [created_of_dry hdry]
        exact follows_pure _
      | false =>
        rw [created_of_real hdry]
        refine Follows.afterLog _ ?_
        refine (follows_call _).bind fun _ => ?_
        exact Follows.afterLog _ (follows_pure _)
    have hbuild : (build ()).Follows
        (andThen (fun store => (built spec options values, store)) fun statement =>
          andThen (ofCall (created statement options)) fun _ store =>
            (.ok (Report.on spec options values statement), store)) := by
      simp only [build, built]
      cases Sql.build spec options.dialect options.naming values with
      | error cause => exact (follows_fail _).bind fun statement => hcreate statement
      | ok statement => exact (follows_pure _).bind fun statement => hcreate statement
    exact hbuild.maybeAfterLog _ _
  cases hdry : options.dryRun with
  | true =>
    rw [dropped_of_dry hdry]
    exact hdiscover.afterLog _
  | false =>
    rw [dropped_of_real hdry]
    refine Follows.afterLog _ ?_
    exact (follows_call _).bind fun _ => hdiscover

/-- The columns, the values and the number of NULLs that a run of a spec reports. -/
def reported (spec : Spec) (options : Options) (store : σ) :
    Option (List String × List Value × Nat) :=
  match ((runSpec spec options : Run σ Report).start store).1 with
  | .ok report => some (report.columns, report.values.values, report.values.skippedNulls)
  | .error _ => none

theorem exists_of_reported {spec : Spec} {options : Options} {store : σ} {columns : List String}
    {values : List Value} {skipped : Nat}
    (h : reported spec options store = some (columns, values, skipped)) :
    ∃ report, ((runSpec spec options : Run σ Report).start store).1 = .ok report ∧
      report.columns = columns ∧ report.values.values = values ∧
      report.values.skippedNulls = skipped := by
  unfold reported at h
  split at h
  · next report hrun =>
    cases h
    exact ⟨report, hrun, rfl, rfl, rfl⟩
  · cases h

/-- The drop has no part in what a run reports but for the store that it leaves. -/
theorem reported_of_dropped {spec : Spec} {options : Options} {store after : σ}
    (h : dropped spec options store = (.ok (), after)) :
    reported spec options store = match (courseBehindDrop spec options after).1 with
      | .ok report => some (report.columns, report.values.values, report.values.skippedNulls)
      | .error _ => none := by
  rw [reported, ((follows_runSpec spec options).start store).1, course_of_dropped h]

/-! ### Directives -/

/-- A run of a directive, without its log. -/
def directiveCourse (text : String) (options : Options) : σ → Except Error (Option Report) × σ :=
  match Directive.parse text with
  | .ok directive => andThen (course directive.spec options) fun report store =>
      (.ok (some report), store)
  | .error (.missing _) => fun store => (.ok none, store)
  | .error cause => fun store => (.error (.directive cause), store)

omit [Store σ] in
theorem follows_logIgnored (pairs : List (String × String)) :
    (logIgnored pairs : Run σ Unit).Follows fun store => (.ok (), store) := by
  induction pairs with
  | nil => exact follows_pure ()
  | cons pair rest ih => exact ih.afterLog _

theorem follows_runDirective (text : String) (options : Options) :
    (runDirective text options : Run σ (Option Report)).Follows (directiveCourse text options) := by
  unfold runDirective directiveCourse
  extract_lets shown
  refine Follows.afterLog _ ?_
  cases Directive.parse text with
  | ok directive =>
    have hrun : (runSpec directive.spec options >>= fun report =>
        (pure (some report) : Run σ (Option Report))).Follows
        (andThen (course directive.spec options) fun report store => (.ok (some report), store)) :=
      (follows_runSpec directive.spec options).bind fun report => follows_pure (some report)
    exact (follows_logIgnored directive.ignored).bind fun _ => hrun
  | error cause =>
    cases cause with
    | missing keywords => exact Follows.afterLog _ (follows_pure none)
    | _ => exact follows_fail _

section

variable {text : String} (options : Options) (store : σ)

/-- A directive that is read is run as its spec. -/
theorem start_runDirective {directive : Directive} (h : Directive.parse text = .ok directive) :
    ((runDirective text options : Run σ _).start store).1 =
        ((runSpec directive.spec options : Run σ _).start store).1.map some ∧
      ((runDirective text options : Run σ _).start store).2.store =
        ((runSpec directive.spec options : Run σ _).start store).2.store := by
  obtain ⟨hanswer, hstore⟩ := (follows_runDirective text options).start store
  obtain ⟨hspec, hspecStore⟩ := (follows_runSpec directive.spec options).start store
  rw [hanswer, hstore, hspec, hspecStore]
  simp only [directiveCourse, h, Run.andThen]
  cases course directive.spec options store with
  | mk answer after => cases answer <;> exact ⟨rfl, rfl⟩

/-- A run without a report and without an error is one of a directive that lacks keywords. -/
theorem start_runDirective_eq_none_iff :
    ((runDirective text options : Run σ _).start store).1 = .ok none ↔
      ∃ keywords, Directive.parse text = .error (.missing keywords) := by
  obtain ⟨hanswer, -⟩ := (follows_runDirective text options).start store
  rcases hparse : Directive.parse text with cause | directive
  · rw [hanswer, directiveCourse, hparse]
    cases cause <;> simp
  · rw [(start_runDirective options store hparse).1]
    cases ((runSpec directive.spec options : Run σ _).start store).1 <;> simp [Except.map]

theorem start_runDirective_eq_some_iff {report : Report} :
    ((runDirective text options : Run σ _).start store).1 = .ok (some report) ↔
      ∃ directive, Directive.parse text = .ok directive ∧
        ((runSpec directive.spec options : Run σ _).start store).1 = .ok report := by
  obtain ⟨hanswer, -⟩ := (follows_runDirective text options).start store
  rcases hparse : Directive.parse text with cause | directive
  · rw [hanswer, directiveCourse, hparse]
    cases cause <;> simp
  · rw [(start_runDirective options store hparse).1]
    cases hrun : ((runSpec directive.spec options : Run σ _).start store).1 <;>
      simp [Except.map, hrun]

variable {options store} in
/-- A report is about the spec that was run. -/
theorem spec_of_runSpec {spec : Spec} {report : Report}
    (h : ((runSpec spec options : Run σ _).start store).1 = .ok report) : report.spec = spec := by
  rw [((follows_runSpec spec options).start store).1] at h
  obtain ⟨_, _, -, h⟩ := Run.andThen_eq_ok (Prod.ext h rfl : course spec options store = (_, _))
  obtain ⟨_, _, -, h⟩ := Run.andThen_eq_ok h
  obtain ⟨_, _, -, h⟩ := Run.andThen_eq_ok h
  obtain ⟨_, _, -, h⟩ := Run.andThen_eq_ok h
  obtain ⟨h, -⟩ := Prod.mk.inj h
  cases h
  rfl

end

end Crosstab

import Crosstab.CommandLine.Outcome

/-!
# Settings

Where the options of a run and the path of its database come from. The variables are read before
the command line has its say, so a variable with an unknown name is refused also where it does not
matter.

    command line, else variable, else default ──▶ dialect, naming
    command line, else variable               ──▶ path
-/

namespace Crosstab.CommandLine

variable {α : Type}

/-- A variable is set to a name that stands for nothing. -/
def Misnamed (parse : String → Except ConfigError α) (setTo : Option String) : Prop :=
  ∃ name cause, setTo = some name ∧ parse name = .error cause

/-- A value is what is given, else what a variable names, else the default. -/
def Chosen (parse : String → Except ConfigError α) (given : Option α) (setTo : Option String)
    (default value : α) : Prop :=
  match given, setTo with
  | some choice, _ => value = choice
  | none, some name => parse name = .ok value
  | none, none => value = default

/-- The value of a variable that names one, else the default. -/
def ofVariable (parse : String → Except ConfigError α) (default : α) (setTo : Option String) :
    Except ConfigError α :=
  match setTo with
  | some name => parse name
  | none => .ok default

section

variable {parse : String → Except ConfigError α} {default : α} {setTo : Option String}

theorem ofVariable_eq_ok_iff {value : α} :
    ofVariable parse default setTo = .ok value ↔ Chosen parse none setTo default value := by
  unfold ofVariable Chosen
  cases setTo <;> simp [eq_comm]

theorem ofVariable_eq_error_iff {cause : ConfigError} :
    ofVariable parse default setTo = .error cause ↔
      ∃ name, setTo = some name ∧ parse name = .error cause := by
  unfold ofVariable
  cases setTo <;> simp

theorem exists_error_ofVariable (default : α) :
    (∃ cause, ofVariable parse default setTo = .error cause) ↔ Misnamed parse setTo := by
  simp only [ofVariable_eq_error_iff, Misnamed]
  exact exists_comm

theorem chosen_iff {named : α} (h : ofVariable parse default setTo = .ok named)
    {given : Option α} {value : α} :
    Chosen parse given setTo default value ↔ value = given.getD named := by
  unfold ofVariable at h
  unfold Chosen
  rcases given with _ | choice
  · rcases setTo with _ | name
    · cases h
      rfl
    · replace h : parse name = .ok named := h
      simp [h, eq_comm]
  · rfl

end

/-- The variable of the dialect is looked at first. -/
theorem ofVariables_eq (lookup : String → Option String) :
    Options.ofVariables lookup = do
      let dialect ← ofVariable parseDialect .sqlite (lookup Options.dialectVariable)
      let naming ← ofVariable parseNaming .quoted (lookup Options.namingVariable)
      return ⟨dialect, naming, false⟩ := by
  unfold Options.ofVariables ofVariable
  cases lookup Options.dialectVariable <;> cases lookup Options.namingVariable <;> rfl

namespace Settings

variable {settings : Settings} {environment : Environment} {dryRun : Bool}

/-- The names that variables give are read, the dialect first; then the command line counts. -/
theorem options_eq (settings : Settings) (environment : Environment) (dryRun : Bool) :
    settings.options environment dryRun = do
      let dialect ← ofVariable parseDialect Options.default.dialect
        (environment.lookup Options.dialectVariable)
      let naming ← ofVariable parseNaming Options.default.naming
        (environment.lookup Options.namingVariable)
      return ⟨settings.dialect.getD dialect, settings.naming.getD naming, dryRun⟩ := by
  rw [options, ofVariables_eq]
  simp only [bind_assoc, pure_bind]
  rfl

/-- The options are refused exactly if a variable is set to an unknown name. -/
theorem exists_options_error_iff :
    (∃ cause, settings.options environment dryRun = .error cause) ↔
      Misnamed parseDialect (environment.lookup Options.dialectVariable) ∨
        Misnamed parseNaming (environment.lookup Options.namingVariable) := by
  rw [options_eq, ← exists_error_ofVariable Options.default.dialect,
    ← exists_error_ofVariable Options.default.naming]
  rcases ofVariable parseDialect Options.default.dialect
    (environment.lookup Options.dialectVariable) with cause | dialect
  · simp [bind, Except.bind]
  · rcases ofVariable parseNaming Options.default.naming
      (environment.lookup Options.namingVariable) with cause | naming
    · simp [bind, Except.bind]
    · simp [bind, Except.bind, pure, Except.pure]

/-- Options that are not refused are the ones that are chosen. -/
theorem of_options_eq_ok {options : Options}
    (h : settings.options environment dryRun = .ok options) :
    Chosen parseDialect settings.dialect (environment.lookup Options.dialectVariable)
        Options.default.dialect options.dialect ∧
      Chosen parseNaming settings.naming (environment.lookup Options.namingVariable)
        Options.default.naming options.naming ∧
      options.dryRun = dryRun := by
  rw [options_eq] at h
  rcases hdialect : ofVariable parseDialect Options.default.dialect
    (environment.lookup Options.dialectVariable) with cause | dialect
  · rw [hdialect] at h
    cases h
  rcases hnaming : ofVariable parseNaming Options.default.naming
    (environment.lookup Options.namingVariable) with cause | naming
  · rw [hdialect, hnaming] at h
    cases h
  rw [hdialect, hnaming] at h
  cases h
  exact ⟨(chosen_iff hdialect).2 rfl, (chosen_iff hnaming).2 rfl, rfl⟩

theorem path?_eq_some_iff {path : String} :
    settings.path? environment = some path ↔ settings.database = some path ∨
      settings.database = none ∧ environment.lookup Options.databaseVariable = some path := by
  unfold path?
  cases settings.database <;> simp

/-- Where settings come from. -/
structure Resolves (settings : Settings) (environment : Environment) (dryRun : Bool) : Prop where
  refused_iff : (∃ cause, settings.options environment dryRun = .error cause) ↔
    Misnamed parseDialect (environment.lookup Options.dialectVariable) ∨
      Misnamed parseNaming (environment.lookup Options.namingVariable)
  chosen : ∀ options, settings.options environment dryRun = .ok options →
    Chosen parseDialect settings.dialect (environment.lookup Options.dialectVariable)
        Options.default.dialect options.dialect ∧
      Chosen parseNaming settings.naming (environment.lookup Options.namingVariable)
        Options.default.naming options.naming ∧
      options.dryRun = dryRun
  path_iff : ∀ path, settings.path? environment = some path ↔ settings.database = some path ∨
    settings.database = none ∧ environment.lookup Options.databaseVariable = some path

theorem resolves (settings : Settings) (environment : Environment) (dryRun : Bool) :
    settings.Resolves environment dryRun :=
  ⟨exists_options_error_iff, fun _ => of_options_eq_ok, fun _ => path?_eq_some_iff⟩

end Settings

end Crosstab.CommandLine

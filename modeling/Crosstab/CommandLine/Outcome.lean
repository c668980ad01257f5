import Crosstab.CommandLine.Environment
import Crosstab.CommandLine.Invocation
import Crosstab.Interchange

/-!
# Outcomes of commands

What a command prints and with which code it ends. Results go to the output; the log, the name of
the database and errors go to the error output. The code is 0 for success, 2 if a directive that
was to be run lacks keywords, and 1 for every other failure; without success there is no output.

    invocation, environment, database ──outcome──▶ code, output, error output

The options are read from the environment before anything else, so a variable with an unknown
value is an error also where an option of the command line replaces it.
-/

namespace Crosstab.CommandLine

/-- How a command ends. -/
structure Outcome (σ : Type) where
  code : UInt8
  output : String
  errorOutput : String
  /-- The path of the database and the database after the command, if one was opened. -/
  database : Option (String × σ)

namespace Outcome

variable {σ : Type}

/-- The end of a command that uses no database. -/
def printed (output : String) : Outcome σ := ⟨0, output, "", none⟩

/-- The end of a command that failed behind some messages. -/
def failed (messages reason : String) (database : Option (String × σ)) : Outcome σ :=
  ⟨1, "", messages ++ "❌ Error: " ++ reason ++ "\n", database⟩

end Outcome

/-! ### Settings -/

/-- The options of a run: what the command line gives, else what variables set. -/
def Settings.options (settings : Settings) (environment : Environment) (dryRun : Bool) :
    Except ConfigError Options := do
  let options ← Options.ofVariables environment.lookup
  return {
    dialect := settings.dialect.getD options.dialect
    naming := settings.naming.getD options.naming
    dryRun }

/-- The path of the database: from the command line, else from its variable. -/
def Settings.path? (settings : Settings) (environment : Environment) : Option String :=
  settings.database <|> environment.lookup Options.databaseVariable

/-! ### Runs -/

/-- The log as it is shown. -/
def logLines (log : List Log.Entry) : String :=
  String.join (log.map fun entry => entry.line ++ "\n")

/-- A way to open the database of a path. -/
abbrev OpenStore (σ : Type) : Type := String → Except StoreError σ

/-- Runs a directive; `finish` gives the output for a report, and the messages that end it. -/
def runOn [Store σ] (openStore : OpenStore σ) (environment : Environment) (directive : String)
    (settings : Settings) (dryRun : Bool)
    (finish : Report → σ → Except StoreError (String × String) × σ) : Outcome σ :=
  match settings.options environment dryRun with
  | .error cause => .failed "" (Error.config cause).message none
  | .ok options =>
    match settings.path? environment with
    | none =>
      .failed "" s!"No database given (use --db or set {Options.databaseVariable})" none
    | some path =>
      let opening := s!"🗄️  Database: {path}\n"
      match openStore path with
      | .error cause => .failed opening cause.message none
      | .ok store =>
        let (answer, session) := Run.start (runDirective directive options) store
        let messages := opening ++ logLines session.log
        match answer with
        | .error error => .failed messages error.message (some (path, session.store))
        | .ok none => ⟨2, "", messages, some (path, session.store)⟩
        | .ok (some report) =>
          match finish report session.store with
          | (.error cause, store) => .failed messages cause.message (some (path, store))
          | (.ok (output, ending), store) => ⟨0, output, messages ++ ending, some (path, store)⟩

/-- Prints the statement of a report. -/
def printStatement (report : Report) (store : σ) : Except StoreError (String × String) × σ :=
  (.ok (report.sql ++ ";\n", ""), store)

/-- Says that a run is done, behind the rows of its table if they are to be shown. -/
def printRows [Store σ] (showRows : Bool) (report : Report) (store : σ) :
    Except StoreError (String × String) × σ :=
  let ending := "\n✨ Done!\n"
  if showRows then
    let (answer, store) := Store.query (Sql.wholeTableSql report.spec.target) store
    (answer.map fun result => ((Json.array result.toRecords).pretty ++ "\n", ending), store)
  else (.ok ("", ending), store)

/-! ### Commands -/

/-- The path of the database that a command with these settings comes to open. -/
def Settings.opened? (settings : Settings) (environment : Environment) : Option String :=
  match settings.options environment true with
  | .error _ => none
  | .ok _ => settings.path? environment

/-- The path of the database that a command comes to open. -/
def Invocation.opened? (environment : Environment) : Invocation → Option String
  | .sql _ settings => settings.opened? environment
  | .run _ settings => settings.opened? environment
  | _ => none

/-- What a command does. -/
def Invocation.outcome [Store σ] (openStore : OpenStore σ) (environment : Environment) :
    Invocation → Outcome σ
  | .grammar => .printed (Directive.grammar ++ "\n")
  | .help topic => .printed topic.text
  | .parse directive =>
    match Directive.parse directive with
    | .ok directive => .printed (directive.spec.toJson.pretty ++ "\n")
    | .error cause => .failed "" cause.message none
  | .sql directive settings => runOn openStore environment directive settings true printStatement
  | .run directive settings =>
    runOn openStore environment directive settings false (printRows settings.showRows)

end Crosstab.CommandLine

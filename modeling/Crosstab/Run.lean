import Crosstab.Discovery
import Crosstab.Error
import Crosstab.Log.Entry

/-!
# Runs

A run turns a directive into a table of the store: it drops the target, discovers the values of
the pivot column, builds the statement and executes it. A dry run only discovers and builds. Every
step is logged, a failing step ends the run, and its error is the last entry of the log.

    directive ──parse──▶ spec ──drop, discover, build, execute──▶ report

A directive that lacks keywords is no failure: a warning is logged and nothing is done.
-/

namespace Crosstab

open Log (Entry)
open Sql (Statement)

/-- What a successful run did. -/
structure Report where
  spec : Spec
  values : ValueSet
  sql : String
  columns : List String
  /-- The statement was executed, and not only built. -/
  executed : Bool

/-- A store, and what has been logged so far. -/
structure Session (σ : Type) where
  store : σ
  log : List Entry

/-- Steps that use a session and may fail; the session outlives a failure. -/
abbrev Run (σ : Type) : Type → Type := ExceptT Error (StateM (Session σ))

namespace Run

variable {σ : Type}

/-- Logs an entry. -/
def log (entry : Entry) : Run σ Unit :=
  modify fun session => { session with log := session.log ++ [entry] }

/-- Ends the run with an error and logs its reason. -/
def fail (error : Error) : Run σ α := do
  log (.error error.reason)
  throw error

/-- Calls the store; an error ends the run. -/
def call (action : σ → Except StoreError α × σ) : Run σ α := do
  let session ← get
  let (answer, store) := action session.store
  set { session with store }
  match answer with
  | .ok value => return value
  | .error cause => fail (.store cause)

/-- Runs steps on a store, and gives their result, the log and the store. -/
def start (steps : Run σ α) (store : σ) : Except Error α × Session σ := steps.run ⟨store, []⟩

end Run

open Run

/-- Runs a spec. -/
def runSpec [Store σ] (spec : Spec) (options : Options) : Run σ Report := do
  if options.dryRun then
    log (.info "(dry run: target table left untouched)")
  else
    log (.info s!"🗑️  Dropping {spec.target} if it exists...")
    call (Store.dropTable (Sql.quoteTable spec.target))
  log (.info s!"🔎 Discovering values of {spec.pivot} in {spec.source}...")
  let values ← call (Store.discover spec)
  log (.success s!"{values.size} distinct value(s)")
  if values.skippedNulls > 0 then
    log (.warning "NULL pivot value ignored (no column generated)")
  let statement ← match Sql.build spec options.dialect options.naming values with
    | .ok statement => pure statement
    | .error cause => fail (.statement cause)
  log (.detail s!"{statement.fragmentCount} fragment(s) assembled")
  if !options.dryRun then
    log (.info s!"⚙️  Creating {spec.target}...")
    call (Store.execute statement.sql)
    log (.success s!"{spec.target} created with {statement.columns.length} pivot column(s)")
  return {
    spec, values
    sql := statement.sql
    columns := statement.columns
    executed := !options.dryRun }

/-- Logs the pairs that a directive has beside its keywords. -/
def logIgnored : List (String × String) → Run σ Unit
  | [] => pure ()
  | (keyword, value) :: rest => do
    log (.detail s!"ignoring unknown keyword '{keyword} {value}'")
    logIgnored rest

/-- Runs a directive. There is no report if keywords are missing. -/
def runDirective [Store σ] (text : String) (options : Options) : Run σ (Option Report) := do
  let shown := Text.trim text
  log (.info s!"📜 Directive: {shown}")
  match Directive.parse text with
  | .ok directive =>
    logIgnored directive.ignored
    return some (← runSpec directive.spec options)
  | .error (.missing keywords) =>
    let names := DirectiveError.listNames keywords
    log (.warning s!"Missing required information ({names}); nothing created")
    return none
  | .error cause => fail (.directive cause)

end Crosstab

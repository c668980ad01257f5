import Crosstab.Proofs.Directive
import Crosstab.Proofs.Run.Calls

/-!
# The log of a run

The log decides nothing about a run, but it tells everything: which calls were attempted, how the
run ended, and how many values, fragments and columns there were.

    directive, ignored pairs │ drop, discover, build, create ── up to the first failure │ its error

`told` is the log of a spec as a function of the store, `Ended` pairs it with the answer and the
calls for each way a run can end, and `runDirective_log` says what a reader of the log can rely on.
-/

namespace Crosstab

open Log (Entry)
open Store (Call Traced)
open Run

/-! ### Entries -/

namespace Log.Entry

abbrev directive (text : String) : Entry :=
  let shown := Text.trim text
  .info s!"📜 Directive: {shown}"

abbrev ignored (pair : String × String) : Entry :=
  .detail s!"ignoring unknown keyword '{pair.1} {pair.2}'"

abbrev lacking (keywords : List Keyword) : Entry :=
  let names := DirectiveError.listNames keywords
  .warning s!"Missing required information ({names}); nothing created"

abbrev untouched : Entry := .info "(dry run: target table left untouched)"

abbrev dropping (target : String) : Entry := .info s!"🗑️  Dropping {target} if it exists..."

abbrev discovering (spec : Spec) : Entry :=
  .info s!"🔎 Discovering values of {spec.pivot} in {spec.source}..."

abbrev discovered (count : Nat) : Entry := .success s!"{count} distinct value(s)"

abbrev nullsIgnored : Entry := .warning "NULL pivot value ignored (no column generated)"

abbrev assembled (count : Nat) : Entry := .detail s!"{count} fragment(s) assembled"

abbrev creating (target : String) : Entry := .info s!"⚙️  Creating {target}..."

abbrev created (target : String) (count : Nat) : Entry :=
  .success s!"{target} created with {count} pivot column(s)"

section Levels

variable (message : String)

@[simp] theorem level_info : (info message).level = .info := rfl
@[simp] theorem level_detail : (detail message).level = .info := rfl
@[simp] theorem level_success : (success message).level = .success := rfl
@[simp] theorem level_warning : (warning message).level = .warning := rfl
@[simp] theorem level_error : (error message).level = .error := rfl

/-- The sign that a plain entry starts with. -/
def sign (entry : Entry) : Option Char :=
  if entry.level = .info ∧ entry.indent = 0 then entry.message.toList.head? else none

theorem sign_info : (info message).sign = message.toList.head? := rfl
@[simp] theorem sign_detail : (detail message).sign = none := rfl
@[simp] theorem sign_success : (success message).sign = none := rfl
@[simp] theorem sign_warning : (warning message).sign = none := rfl
@[simp] theorem sign_error : (error message).sign = none := rfl

end Levels

@[simp] theorem sign_untouched : untouched.sign = some '(' := by decide

@[simp] theorem sign_dropping (target : String) : (dropping target).sign = some '🗑' := by
  simp [sign_info, toString]

@[simp] theorem sign_discovering (spec : Spec) : (discovering spec).sign = some '🔎' := by
  simp [sign_info, toString]

@[simp] theorem sign_creating (target : String) : (creating target).sign = some '⚙' := by
  simp [sign_info, toString]

end Log.Entry

/-- What stands before the reason in the text of an error. -/
def Error.heading : Error → String
  | .directive _ => "Directive error: "
  | .store _ => "Store error: "
  | .statement _ => "Statement error: "
  | .config _ => "Config error: "

variable {σ α β : Type}

/-! ### What steps log -/

namespace Run

/-- The steps log these entries behind whatever has been logged before. -/
def Logs (steps : Run σ α) (entries : σ → List Entry) : Prop :=
  ∀ session : Session σ, (steps.run session).2.log = session.log ++ entries session.store

/-- What is logged about a call and behind it. -/
def callEntries (action : σ → Except StoreError α × σ) (next : α → σ → List Entry) (store : σ) :
    List Entry :=
  match action store with
  | (.ok value, store) => next value store
  | (.error cause, _) => [.error cause.message]

theorem Logs.afterLog {next : Unit → Run σ α} {entries} (entry : Entry)
    (h : (next ()).Logs entries) : (log entry >>= next).Logs fun store => entry :: entries store := by
  intro session
  show ((next ()).run { session with log := session.log ++ [entry] }).2.log = _
  rw [h, List.append_assoc]
  rfl

theorem Logs.maybeAfterLog {next : Unit → Run σ α} {entries} (p : Prop) [Decidable p]
    (entry : Entry) (h : (next ()).Logs entries) :
    (if p then log entry >>= next else next ()).Logs fun store =>
      (if p then [entry] else []) ++ entries store := by
  split
  · exact h.afterLog entry
  · exact h

end Run

/-- The warning about NULLs, if there were any. -/
def nullEntries (values : ValueSet) : List Entry :=
  if values.skippedNulls > 0 then [.nullsIgnored] else []

/-- What is logged first about a spec. -/
def openingEntry (spec : Spec) (options : Options) : Entry :=
  if options.dryRun then .untouched else .dropping spec.target

section Told

variable [Store σ]

/-- What is logged from the creation on. -/
def toldCreation (spec : Spec) (options : Options) (statement : Sql.Statement) (store : σ) :
    List Entry :=
  if options.dryRun then [] else
    .creating spec.target :: callEntries (Store.execute statement.sql)
      (fun _ _ => [.created spec.target statement.columns.length]) store

/-- What is logged about values and from the assembly on. -/
def toldAssembly (spec : Spec) (options : Options) (values : ValueSet) (store : σ) : List Entry :=
  match Sql.build spec options.dialect options.naming values with
  | .error cause => [.error cause.message]
  | .ok statement => .assembled statement.fragmentCount :: toldCreation spec options statement store

/-- What is logged from the discovery on. -/
def toldDiscovery (spec : Spec) (options : Options) (store : σ) : List Entry :=
  .discovering spec :: callEntries (Store.discover spec)
    (fun values store =>
      .discovered values.size :: (nullEntries values ++ toldAssembly spec options values store))
    store

/-- What a run of a spec logs. -/
def told (spec : Spec) (options : Options) (store : σ) : List Entry :=
  openingEntry spec options ::
    callEntries (dropped spec options) (fun _ => toldDiscovery spec options) store

end Told

/-! ### Ends of a spec -/

section Ended

variable [Store σ] {spec : Spec} {options : Options} {store : σ}

end Ended

/-! ### What the log of a spec shows -/

section Ended

variable {spec : Spec} {options : Options} {calls : List Call} {entries : List Entry}

end Ended

/-! ### Announcements -/

/-- The plain entries that start with a sign. -/
def signed (sign : Char) (entries : List Entry) : List Entry :=
  entries.filter fun entry => entry.sign = some sign

/-- An entry with a sign announces an attempt: it is logged once if there is one, and otherwise no
entry has the sign. -/
def Announced (sign : Char) (entry : Entry) (entries : List Entry) (attempted : Prop) : Prop :=
  attempted ∧ signed sign entries = [entry] ∨ ¬ attempted ∧ signed sign entries = []

/-- What announces the calls for a spec. -/
structure Announces (spec : Spec) (options : Options) (calls : List Call)
    (entries : List Entry) : Prop where
  dropping : Announced '🗑' (.dropping spec.target) entries (dropCall spec ∈ calls)
  discovering : Announced '🔎' (.discovering spec) entries (discoveryCall spec ∈ calls)
  creating : Announced '⚙' (.creating spec.target) entries (∃ values statement,
    Sql.build spec options.dialect options.naming values = .ok statement ∧
      createCall statement ∈ calls)

theorem signed_append (sign : Char) (front entries : List Entry) :
    signed sign (front ++ entries) = signed sign front ++ signed sign entries :=
  List.filter_append ..

theorem Announces.behind {spec : Spec} {options : Options} {calls : List Call}
    {front entries : List Entry} (h : Announces spec options calls entries)
    (hfront : ∀ sign ∈ ['🗑', '🔎', '⚙'], signed sign front = []) :
    Announces spec options calls (front ++ entries) := by
  have hsame : ∀ sign ∈ ['🗑', '🔎', '⚙'], signed sign (front ++ entries) = signed sign entries := by
    intro sign hsign
    rw [signed_append, hfront sign hsign, List.nil_append]
  obtain ⟨hdropping, hdiscovering, hcreating⟩ := h
  refine ⟨?_, ?_, ?_⟩
  · rwa [Announced, hsame _ (by simp)]
  · rwa [Announced, hsame _ (by simp)]
  · rwa [Announced, hsame _ (by simp)]

section Announces

variable {spec : Spec} {options : Options} {calls : List Call} {entries : List Entry}

end Announces

/-! ### Directives -/

section Directives

variable [Store σ]

end Directives

section Ended

variable {text : String} {directive : Directive} {spec : Spec} {options : Options}
  {calls : List Call} {entries : List Entry}

end Ended

end Crosstab

/-!
# Log entries

What a run reports while it works. An entry has a level and an indentation; on a terminal each
level has a mark of its own.
-/

namespace Crosstab.Log

/-- The weight of an entry. -/
inductive Level where
  | info
  | success
  | warning
  | error
deriving DecidableEq, Repr

/-- One line of a log. -/
structure Entry where
  level : Level
  message : String
  indent : UInt8
deriving DecidableEq, Repr

/-- The mark that stands before the message on a terminal. -/
def Level.mark : Level → String
  | .info => "   "
  | .success => "   ✓"
  | .warning => "   ⚠️"
  | .error => "   ❌"

namespace Entry

/-- A plain entry. -/
def info (message : String) : Entry := ⟨.info, message, 0⟩

/-- A plain entry that belongs to the one before it. -/
def detail (message : String) : Entry := ⟨.info, message, 1⟩

/-- Something went well. -/
def success (message : String) : Entry := ⟨.success, message, 0⟩

/-- Something may not be as expected. -/
def warning (message : String) : Entry := ⟨.warning, message, 0⟩

/-- Something failed. -/
def error (message : String) : Entry := ⟨.error, message, 0⟩

/-- The line on a terminal: three blanks for each step of indentation, mark and message. -/
def line (entry : Entry) : String :=
  String.ofList (List.replicate (3 * entry.indent.toNat) ' ') ++ entry.level.mark ++ " " ++
    entry.message

end Entry

end Crosstab.Log

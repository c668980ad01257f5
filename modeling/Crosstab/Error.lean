import Crosstab.Directive
import Crosstab.Options
import Crosstab.Store

/-!
# Errors of a run

A run fails for a reason of one of four kinds. Its text is the text of the reason behind a word
for the kind.
-/

namespace Crosstab

/-- Why a run failed. -/
inductive Error where
  | directive (cause : DirectiveError)
  | store (cause : StoreError)
  | statement (cause : Sql.StatementError)
  | config (cause : ConfigError)
deriving DecidableEq, Repr

namespace Error

/-- The text of the reason. -/
def reason : Error → String
  | .directive cause => cause.message
  | .store cause => cause.message
  | .statement cause => cause.message
  | .config cause => cause.message

/-- What is shown of an error. -/
def message (error : Error) : String :=
  match error with
  | .directive _ => "Directive error: " ++ error.reason
  | .store _ => "Store error: " ++ error.reason
  | .statement _ => "Statement error: " ++ error.reason
  | .config _ => "Config error: " ++ error.reason

end Error

end Crosstab

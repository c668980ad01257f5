import Crosstab.Engine.Error
import Crosstab.Sql.Statement
import Crosstab.Store.Result

/-!
# Stores

A store is whatever statements run against. It executes a statement that gives no rows, and it
answers a query with rows; dropping a table is executing a statement. Every call is made once,
and the store that comes out of it is the one that the next call goes to, also if the call
failed.
-/

namespace Crosstab

/-- Why a call failed. -/
inductive StoreError where
  /-- The engine refused the statement. -/
  | engine (cause : EngineError)
  /-- A cell holds what no value stands for. -/
  | unsupportedValue (column kind : String)
deriving DecidableEq, Repr

/-- What is shown of an error. -/
def StoreError.message : StoreError → String
  | .engine cause => "SQLite error: " ++ cause.message
  | .unsupportedValue column kind => s!"Unsupported value in column '{column}': {kind}"

/-- A database that statements run against. -/
class Store (σ : Type) where
  /-- Executes a statement that gives no rows. -/
  execute : String → σ → Except StoreError Unit × σ
  /-- Executes a query and collects all of its rows. -/
  query : String → σ → Except StoreError Store.QueryResult × σ

namespace Store

/-- Drops a table, given as the statement is to name it, if it exists. -/
def dropTable [Store σ] (table : String) (store : σ) : Except StoreError Unit × σ :=
  execute (Sql.dropSql table) store

end Store

end Crosstab

import Crosstab.Store

/-!
# Recording stores

Two stores that remember what is asked of them. The one answers from a script, one item per call,
and once the script is at its end every call succeeds without rows. The other passes each call on
to a store of its own.
-/

namespace Crosstab.Store

/-- A call to a store. -/
inductive Call where
  | execute (sql : String)
  | query (sql : String)
deriving DecidableEq, Repr

/-- The call as a line of text. -/
def Call.line : Call → String
  | .execute sql => "execute: " ++ sql
  | .query sql => "query: " ++ sql

/-- One prepared answer: to a query, a result; to an execution, success in its place. -/
abbrev Answer : Type := Except StoreError QueryResult

/-- A store that answers from a script. -/
structure Scripted where
  script : List Answer
  /-- The calls made so far, in order. -/
  calls : List Call

/-- Takes the next answer and remembers the call. -/
def Scripted.answer (call : Call) (store : Scripted) : Answer × Scripted :=
  match store.script with
  | [] => (.ok .empty, { store with calls := store.calls ++ [call] })
  | next :: script => (next, ⟨script, store.calls ++ [call]⟩)

instance : Store Scripted where
  execute sql store :=
    let (answer, store) := store.answer (.execute sql)
    (answer.map fun _ => (), store)
  query sql store := store.answer (.query sql)

/-- A store with a record of the calls that went to it. -/
structure Traced (σ : Type) where
  store : σ
  /-- The calls made so far, in order. -/
  calls : List Call

instance [Store σ] : Store (Traced σ) where
  execute sql traced :=
    let (answer, store) := execute sql traced.store
    (answer, ⟨store, traced.calls ++ [.execute sql]⟩)
  query sql traced :=
    let (answer, store) := query sql traced.store
    (answer, ⟨store, traced.calls ++ [.query sql]⟩)

end Crosstab.Store

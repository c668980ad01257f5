import Crosstab.Store
import Crosstab.ValueSet

/-!
# Discovery

The distinct values of the pivot column, read off the first column of a query result. NULLs are
counted and dropped, because they neither equal anything nor name a column. Integers of 64 bits
with a sign stay integers, every other number is a real, and text is text; a cell of any other
kind stops the discovery.

    first column ──Value.ofCell?──▶ values ──insert──▶ value set
-/

namespace Crosstab

open Store (QueryResult)

/-- The real that a number is or that is nearest to it. -/
def Json.Number.toReal : Json.Number → Binary64
  | .integer n _ _ => .ofInt n
  | .real x _ => x

/-- The value of a cell of a column, or none for NULL. -/
def Value.ofCell? (column : String) : Json → Except StoreError (Option Value)
  | .null => .ok none
  | .string s => .ok (some (.text s))
  | .number (.integer n lower upper) =>
    if n < 2 ^ 63 then .ok (some (.integer (Int64.ofInt n)))
    else .ok (some (.real (Json.Number.integer n lower upper).toReal))
  | .number (.real x _) => .ok (some (.real x))
  | .bool _ => .error (.unsupportedValue column "boolean")
  | .array _ => .error (.unsupportedValue column "array")
  | .object _ => .error (.unsupportedValue column "object")

/-- Takes the cells of a column into a set, in order, up to the first that is no value. -/
def ValueSet.addCells (column : String) (set : ValueSet) : List Json → Except StoreError ValueSet
  | [] => .ok set
  | cell :: cells => do
    match ← Value.ofCell? column cell with
    | some value => addCells column (set.insert value).2 cells
    | none => addCells column set.skipNull cells

/-- The values that a result of the discovery query shows. -/
def ValueSet.ofResult (column : String) (result : QueryResult) : Except StoreError ValueSet :=
  ValueSet.empty.addCells column result.firstColumn

namespace Store

/-- Asks a store for the distinct values of the pivot column. -/
def discover [Store σ] (spec : Spec) (store : σ) : Except StoreError ValueSet × σ :=
  let (answer, store) := query (Sql.discoverySql spec) store
  (answer.bind (ValueSet.ofResult spec.pivot), store)

end Store

end Crosstab

import Crosstab.Interchange
import Crosstab.Proofs.Json.Values
import Mathlib.Data.List.Forall2

/-!
# Value sets read back from JSON

The JSON of a value carries no type, only a spelling: digits for an integer, a fraction or a power
of ten for a real, quotes for a text. Taken as cells of a column, the elements of a written set are
the values that they were. Only NaN and the infinities are lost, for which `null` stands.

    set ──toJson──▶ value ──compact, pretty──▶ text ──read?──▶ cells ──Value.ofCell?──▶ values
-/

namespace Crosstab

open Json (read? read?_written)

namespace Value

/-- A cell holds a value: it is `null` for the reals that are no numbers and for no other value, and
a cell that is not `null` is taken for the value, in whatever column. -/
structure HeldBy (value : Value) (cell : Json) : Prop where
  null_iff : cell = .null ↔ ∃ x, value = .real x ∧ x.isFinite = false
  taken : cell ≠ .null → ∀ column, ofCell? column cell = .ok (some value)

theorem heldBy_integer (n : Int64) : HeldBy (.integer n) (toJson (.integer n)) := by
  have hlower : -2 ^ 63 ≤ n.toInt := Int64.le_toInt n
  have hupper : n.toInt < 2 ^ 63 := Int64.toInt_lt n
  have hfits : n.toInt < 2 ^ 64 := Int.lt_trans hupper (by decide)
  have hjson : toJson (.integer n) = .number (.integer n.toInt hlower hfits) :=
    dif_pos ⟨hlower, hfits⟩
  rw [hjson]
  refine ⟨⟨fun h => (nomatch h), fun ⟨_, h, _⟩ => (nomatch h)⟩, fun _ column => ?_⟩
  rw [ofCell?, if_pos hupper, Int64.ofInt_toInt]

theorem heldBy_real (x : Binary64) : HeldBy (.real x) (toJson (.real x)) := by
  by_cases hfinite : x.isFinite = true
  · have hjson : toJson (.real x) = .number (.real x hfinite) := dif_pos hfinite
    rw [hjson]
    refine ⟨⟨fun h => (nomatch h), ?_⟩, fun _ column => rfl⟩
    rintro ⟨y, hvalue, hy⟩
    rw [← Value.real.inj hvalue, hfinite] at hy
    cases hy
  · have hjson : toJson (.real x) = .null := dif_neg hfinite
    rw [hjson]
    exact ⟨⟨fun _ => ⟨x, rfl, Bool.eq_false_iff.2 hfinite⟩, fun _ => rfl⟩, fun h => absurd rfl h⟩

/-- The JSON value of a pivot value holds it. -/
theorem heldBy_toJson (value : Value) : HeldBy value value.toJson := by
  cases value with
  | integer n => exact heldBy_integer n
  | real x => exact heldBy_real x
  | text s => exact ⟨⟨fun h => (nomatch h), fun ⟨_, h, _⟩ => (nomatch h)⟩, fun _ _ => rfl⟩

end Value

namespace ValueSet

/-- Every real of the set is a number. -/
def AllFinite (set : ValueSet) : Prop := ∀ x, .real x ∈ set.values → x.isFinite = true

/-- What is read from a text of a set: its values in their order, each held by a cell, so that the
cells are taken for the values if all reals are numbers; and the number of NULLs as an integer, if
it fits into 64 bits. -/
def ReadsBack (set : ValueSet) (text : String) : Prop :=
  ∃ cells skipped,
    read? text = some (.object [("values", .array cells), ("skippedNulls", skipped)]) ∧
    List.Forall₂ Value.HeldBy set.values cells ∧
    (set.AllFinite → ∀ column, cells.mapM (Value.ofCell? column) = .ok (set.values.map some)) ∧
    (set.skippedNulls < 2 ^ 64 →
      ∃ lower upper, skipped = .number (.integer set.skippedNulls lower upper))

variable {set : ValueSet}

theorem forall₂_heldBy (values : List Value) :
    List.Forall₂ Value.HeldBy values (values.map Value.toJson) := by
  rw [List.forall₂_map_right_iff]
  exact List.forall₂_same.2 fun value _ => value.heldBy_toJson

theorem mapM_ofCell?_toJson {values : List Value}
    (hfinite : ∀ x, .real x ∈ values → x.isFinite = true) (column : String) :
    (values.map Value.toJson).mapM (Value.ofCell? column) = .ok (values.map some) := by
  induction values with
  | nil => rfl
  | cons value values ih =>
    have hheld := value.heldBy_toJson
    have htaken : Value.ofCell? column value.toJson = .ok (some value) := by
      refine hheld.taken (fun hnull => ?_) column
      obtain ⟨x, rfl, hx⟩ := hheld.null_iff.1 hnull
      rw [hfinite x List.mem_cons_self] at hx
      cases hx
    have hrest := ih fun x hx => hfinite x (List.mem_cons_of_mem _ hx)
    rw [List.map_cons, List.mapM_cons, htaken, hrest]
    rfl

theorem toJson_skippedNulls (h : set.skippedNulls < 2 ^ 64) :
    ∃ lower upper, Json.ofInt set.skippedNulls =
      .number (.integer set.skippedNulls lower upper) := by
  have hfits : -2 ^ 63 ≤ (set.skippedNulls : Int) ∧ (set.skippedNulls : Int) < 2 ^ 64 := by omega
  exact ⟨hfits.1, hfits.2, dif_pos hfits⟩

/-- **Value sets.** Both written forms of a set are read back as its values, with their types and in
their order, and as the number of NULLs; exactly the reals that are no numbers become `null`. -/
theorem readsBack_toJson (set : ValueSet) :
    set.ReadsBack set.toJson.compact ∧ set.ReadsBack set.toJson.pretty := by
  obtain ⟨hcompact, hpretty⟩ := read?_written set.toJson
  have hback (text : String) (hread : read? text = some set.toJson) : set.ReadsBack text :=
    ⟨_, _, hread, forall₂_heldBy set.values, mapM_ofCell?_toJson, toJson_skippedNulls⟩
  exact ⟨hback _ hcompact, hback _ hpretty⟩

/-- An integer, an integral real and a text of the same spelling stay apart. -/
example :
    (toJson ⟨[.integer 2, .real ⟨0x4000000000000000⟩, .text "2"], 1⟩).compact =
      "\x7b\"values\":[2,2.0,\"2\"],\"skippedNulls\":1\x7d" := by decide +kernel

end ValueSet

end Crosstab

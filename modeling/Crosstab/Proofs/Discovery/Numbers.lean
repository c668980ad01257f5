import Crosstab.Proofs.Discovery

/-!
# Numbers in a discovery

A set holds a number in 64 bits: an integer that has so many, with a sign, is held as it is, and
every other number as the nearest real. So integers are held exactly, and apart from all other
numbers, as long as none of them is too wide. Those that are get merged with whatever is rounded to
the same real.

    integer below 2⁶³ ──image──▶ the integer
    any other number  ──image──▶ the nearest real
-/

namespace Crosstab

/-! ### Numbers and what they are held as -/

namespace Json.Number

/-- The number itself. -/
def value : Json.Number → ℚ
  | .integer n _ _ => n
  | .real x _ => x.value

/-- The integer that a number is written as. -/
def integer? : Json.Number → Option Int
  | .integer n _ _ => some n
  | .real _ _ => none

/-- The number is none of the integers of 64 bits with a sign. -/
def heldAsReal : Json.Number → Bool
  | .integer n _ _ => decide (2 ^ 63 ≤ n)
  | .real _ _ => true

theorem value_of_integer? {number : Json.Number} {n : Int} (h : number.integer? = some n) :
    number.value = n := by
  cases number with
  | integer m lower upper =>
    obtain rfl : m = n := Option.some.inj h
    rfl
  | real x finite => cases h

theorem heldAsReal_of_integer? {number : Json.Number} {n : Int} (h : number.integer? = some n) :
    number.heldAsReal = decide (2 ^ 63 ≤ n) := by
  cases number with
  | integer m lower upper =>
    obtain rfl : m = n := Option.some.inj h
    rfl
  | real x finite => cases h

/-- A number is held as the integer that it is, or as the real that is nearest to it. -/
theorem image_cases (number : Json.Number) :
    (number.heldAsReal = false ∧
        ∃ m : Int64, number.image = .integer m ∧ (m.toInt : ℚ) = number.value) ∨
      (number.heldAsReal = true ∧
        ∃ x : Binary64, number.image = .real x ∧ x.IsNearest number.value) := by
  cases number with
  | integer n lower upper =>
    rcases image_integer n lower upper with ⟨m, himage, hm⟩ | ⟨x, himage, hwide, -, hx⟩
    · refine .inl ⟨?_, m, himage, ?_⟩
      · have hlt := m.toInt_lt
        rw [hm] at hlt
        exact decide_eq_false (Int.not_le.2 hlt)
      · exact congrArg _ hm
    · exact .inr ⟨decide_eq_true hwide, x, himage, hx⟩
  | real x finite =>
    exact .inr ⟨rfl, x, rfl, Binary64.isNearest_value (Binary64.isNaN_of_isFinite finite)⟩

/-- Two numbers are held as one value if they are one integer, or if one real is nearest to both. -/
theorem same_image_iff (number other : Json.Number) : number.image.same other.image = true ↔
    (number.heldAsReal = false ∧ other.heldAsReal = false ∧ number.value = other.value) ∨
      (number.heldAsReal = true ∧ other.heldAsReal = true ∧
        ∃ x : Binary64, x.IsNearest number.value ∧ x.IsNearest other.value) := by
  rcases number.image_cases with ⟨hnumber, m, himage, hm⟩ | ⟨hnumber, x, himage, hx⟩ <;>
    rcases other.image_cases with ⟨hother, n, himage', hn⟩ | ⟨hother, y, himage', hy⟩ <;>
      rw [himage, himage', hnumber, hother]
  · have hintegers : (Value.integer m).same (.integer n) = true ↔ number.value = other.value := by
      rw [← hm, ← hn, Int.cast_inj, Int64.toInt_inj]
      exact beq_iff_eq
    simpa using hintegers
  · simp [Value.same]
  · simp [Value.same]
  · have hreals : (Value.real x).same (.real y) = true ↔
        ∃ z : Binary64, z.IsNearest number.value ∧ z.IsNearest other.value := hx.same_iff hy
    simpa using hreals

end Json.Number

/-! ### Places of a set -/

namespace ValueSet

/-- The place of the value that stands for a cell of a column. -/
def place? (set : ValueSet) (column : String) (cell : Json) : Option Nat :=
  match Value.ofCell? column cell with
  | .ok (some value) => set.values.findIdx? fun member => member.same value
  | _ => none

variable {set : ValueSet} {cells : List Json} (column : String) {number other : Json.Number}

theorem place?_number (set : ValueSet) (number : Json.Number) :
    set.place? column (.number number) =
      set.values.findIdx? fun member => member.same number.image := by
  have hcell : Value.ofCell? column (.number number) = .ok (some number.image) :=
    Value.ofCell?_eq column (.number number)
  unfold place?
  rw [hcell]

/-- A number that a set took has a place, and what stands there is equal to what the number is held
as. -/
theorem Took.exists_place (h : set.Took cells) (hnumber : .number number ∈ cells) :
    ∃ i member, set.place? column (.number number) = some i ∧ set.values[i]? = some member ∧
      member.same number.image = true := by
  have himage : number.image ∈ cells.filterMap Json.image? :=
    List.mem_filterMap.2 ⟨_, hnumber, rfl⟩
  have hnan := Value.isNaN_of_isFinite (Json.isFinite_of_mem_images himage)
  obtain ⟨first, hfirst, hsame⟩ := Value.exists_same_firsts himage hnan
  rw [← h.values_eq] at hfirst
  have hsome : (set.values.findIdx? fun member => member.same number.image).isSome := by
    rw [List.findIdx?_isSome]
    exact List.any_eq_true.2 ⟨first, hfirst, hsame⟩
  obtain ⟨i, hi⟩ := Option.isSome_iff_exists.1 hsome
  obtain ⟨hlt, hmember, -⟩ := List.findIdx?_eq_some_iff_getElem.1 hi
  exact ⟨i, _, (place?_number column set number).trans hi, List.getElem?_eq_getElem hlt, hmember⟩

/-- Two numbers stand at one place if they are held as one value. -/
theorem Took.place?_eq_iff (h : set.Took cells) (hnumber : .number number ∈ cells)
    (hother : .number other ∈ cells) :
    set.place? column (.number number) = set.place? column (.number other) ↔
      number.image.same other.image = true := by
  constructor
  · intro hplaces
    obtain ⟨i, member, hi, hmember, hsame⟩ := h.exists_place column hnumber
    obtain ⟨j, another, hj, hanother, hsame'⟩ := h.exists_place column hother
    obtain rfl : i = j := Option.some.inj (hi.symm.trans (hplaces.trans hj))
    obtain rfl : member = another := Option.some.inj (hmember.symm.trans hanother)
    exact Value.same_trans (Value.same_symm hsame) hsame'
  · intro hsame
    rw [place?_number, place?_number]
    congr 1
    funext member
    apply Bool.eq_iff_iff.2
    constructor
    · intro hmember
      exact Value.same_trans hmember hsame
    · intro hmember
      exact Value.same_trans hmember (Value.same_symm hsame)

/-! ### Integers -/

/-- An integer that is not too wide stands at its place as it is. -/
theorem Took.exists_integer (h : set.Took cells) (hnumber : .number number ∈ cells) {n : Int}
    (hn : number.integer? = some n) (hnarrow : n < 2 ^ 63) :
    ∃ i m, set.place? column (.number number) = some i ∧ set.values[i]? = some (.integer m) ∧
      m.toInt = n := by
  obtain ⟨i, member, hi, hmember, hsame⟩ := h.exists_place column hnumber
  rcases number.image_cases with ⟨-, m, himage, hm⟩ | ⟨hwide, -⟩
  · rw [himage] at hsame
    rw [Json.Number.value_of_integer? hn, Int.cast_inj] at hm
    cases member with
    | integer k =>
      obtain rfl : k = m := beq_iff_eq.1 hsame
      exact ⟨i, k, hi, hmember, hm⟩
    | _ => cases hsame
  · rw [Json.Number.heldAsReal_of_integer? hn] at hwide
    exact absurd hnarrow (Int.not_lt.2 (of_decide_eq_true hwide))

/-- No other number stands where such an integer does. -/
theorem Took.place?_ne (h : set.Took cells) (hnumber : .number number ∈ cells) {n : Int}
    (hn : number.integer? = some n) (hnarrow : n < 2 ^ 63) (hother : .number other ∈ cells)
    (hne : other.value ≠ n) :
    set.place? column (.number number) ≠ set.place? column (.number other) := by
  intro hplaces
  rw [h.place?_eq_iff column hnumber hother, Json.Number.same_image_iff,
    Json.Number.heldAsReal_of_integer? hn, Json.Number.value_of_integer? hn] at hplaces
  rcases hplaces with ⟨-, -, heq⟩ | ⟨hwide, -⟩
  · exact hne heq.symm
  · exact absurd hnarrow (Int.not_lt.2 (of_decide_eq_true hwide))

/-- The integers of a column are held as they are, and apart from all other numbers. -/
structure KeepsIntegers (set : ValueSet) (column : String) (cells : List Json) : Prop where
  exact : ∀ (number : Json.Number) (n : Int), .number number ∈ cells → number.integer? = some n →
    ∃ i m, set.place? column (.number number) = some i ∧ set.values[i]? = some (.integer m) ∧
      m.toInt = n
  apart : ∀ (number other : Json.Number) (n : Int), .number number ∈ cells →
    number.integer? = some n → .number other ∈ cells → other.value ≠ n →
      set.place? column (.number number) ≠ set.place? column (.number other)

/-- Wide integers are the only ones that are not kept. -/
theorem Took.keepsIntegers_iff (h : set.Took cells) : set.KeepsIntegers column cells ↔
    ∀ number n, .number number ∈ cells → number.integer? = some n → n < 2 ^ 63 := by
  constructor
  · intro hkeeps number n hnumber hn
    obtain ⟨i, m, -, -, rfl⟩ := hkeeps.exact number n hnumber hn
    exact m.toInt_lt
  · intro hnarrow
    constructor
    · intro number n hnumber hn
      exact h.exists_integer column hnumber hn (hnarrow number n hnumber hn)
    · intro number other n hnumber hn hother hne
      exact h.place?_ne column hnumber hn (hnarrow number n hnumber hn) hother hne

end ValueSet

namespace Store

/-- **Numbers.** A discovery keeps the integers of the first column exactly if they all have 64 bits
with a sign. In any case two numbers are merged if they are one integer of this kind, or if neither
is one and the same real is nearest to both. -/
theorem discover_keepsIntegers_iff {σ : Type} [Store σ] (spec : Spec) {store : σ}
    {result : QueryResult} {set : ValueSet}
    (hanswer : (query (Sql.discoverySql spec) store).1 = .ok result)
    (hset : (discover spec store).1 = .ok set) :
    (set.KeepsIntegers spec.pivot result.firstColumn ↔
        ∀ number n, .number number ∈ result.firstColumn → number.integer? = some n → n < 2 ^ 63) ∧
      ∀ number other, .number number ∈ result.firstColumn → .number other ∈ result.firstColumn →
        (set.place? spec.pivot (.number number) = set.place? spec.pivot (.number other) ↔
          (number.heldAsReal = false ∧ other.heldAsReal = false ∧ number.value = other.value) ∨
            (number.heldAsReal = true ∧ other.heldAsReal = true ∧
              ∃ x : Binary64, x.IsNearest number.value ∧ x.IsNearest other.value)) := by
  rw [discover_eq_ofResult spec hanswer] at hset
  obtain ⟨-, htook⟩ := QueryResult.took_of_ofResult hset
  refine ⟨htook.keepsIntegers_iff spec.pivot, fun number other hnumber hother => ?_⟩
  rw [htook.place?_eq_iff spec.pivot hnumber hother]
  exact Json.Number.same_image_iff number other

/-- Integers on both sides of 2⁶³, and the real that two of them are nearest to. -/
def wideRows : QueryResult where
  columns := ["k"]
  rows := [[Json.ofInt (2 ^ 63 - 1)], [Json.ofInt (2 ^ 63)], [Json.ofReal ⟨0x43e0000000000000⟩],
    [Json.ofInt (2 ^ 63 + 1)]]

theorem discover_keepsIntegers_iff_wideRows :
    let spec : Spec := ⟨"w", "s", "id", "k", "amt"⟩
    let store : Scripted := ⟨[.ok wideRows], []⟩
    ∃ set, (discover spec store).1 = .ok set ∧
      set.values = [.integer (2 ^ 63 - 1), .real ⟨0x43e0000000000000⟩] ∧
      (set.KeepsIntegers "k" wideRows.firstColumn ↔ ∀ number n,
        .number number ∈ wideRows.firstColumn → number.integer? = some n → n < 2 ^ 63) := by
  intro spec store
  have hanswer : (query (Sql.discoverySql spec) store).1 = .ok wideRows := rfl
  obtain ⟨set, hset, htook⟩ := exists_discovered spec hanswer rfl
  refine ⟨set, hset, ?_, (discover_keepsIntegers_iff spec hanswer hset).1⟩
  rw [htook.values_eq]
  decide +kernel

/-- Two integers that are too wide to be kept: one real is left of them. -/
theorem discover_merges_wideIntegers :
    let spec : Spec := ⟨"w", "s", "id", "k", "amt"⟩
    let rows := [[Json.ofInt (2 ^ 63)], [Json.ofInt (2 ^ 63 + 1)]]
    let store : Scripted := ⟨[.ok ⟨["k"], rows⟩], []⟩
    ∃ set, (discover spec store).1 = .ok set ∧ set.values = [.real ⟨0x43e0000000000000⟩] ∧
      ¬ set.KeepsIntegers "k" (rows.filterMap List.head?) := by
  intro spec rows store
  have hanswer : (query (Sql.discoverySql spec) store).1 = .ok ⟨["k"], rows⟩ := rfl
  obtain ⟨set, hset, htook⟩ := exists_discovered spec hanswer rfl
  refine ⟨set, hset, ?_, fun hkeeps => ?_⟩
  · rw [htook.values_eq]
    decide +kernel
  · have hnarrow := (htook.keepsIntegers_iff "k").1 hkeeps
    have hlt : (2 ^ 63 : Int) < 2 ^ 63 :=
      hnarrow (.integer (2 ^ 63) (by decide) (by decide)) _ List.mem_cons_self rfl
    exact absurd hlt (by decide)

end Store

end Crosstab

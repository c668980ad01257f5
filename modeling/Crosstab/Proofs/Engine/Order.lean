import Crosstab.Engine.Cell
import Crosstab.Proofs.Decimal.Shortest
import Mathlib.Order.Compare

/-!
# The order of cells

Cells are ordered by three things in turn: the kind, the value of a number in units of 2⁻¹⁰⁷⁴, and
the bytes of text or of a blob. So their order is total and transitive, and cells with the same
place in it can stand for each other.
-/

namespace Crosstab

open Binary64

/-! ### Reals -/

theorem strictMono_unitsOfRank : StrictMono unitsOfRank := fun _ _ h => unitsOfRank_lt h

theorem Binary64.units_lt_iff (x y : Binary64) :
    x.units < y.units ↔ x.signedRank < y.signedRank := by
  have hlt := strictMono_unitsOfRank.lt_iff_lt (a := x.rank) (b := y.rank)
  have hgt := strictMono_unitsOfRank.lt_iff_lt (a := y.rank) (b := x.rank)
  have hx := strictMono_unitsOfRank.lt_iff_lt (a := 0) (b := x.rank)
  have hy := strictMono_unitsOfRank.lt_iff_lt (a := 0) (b := y.rank)
  have hzero : unitsOfRank 0 = 0 := rfl
  rw [hzero] at hx hy
  unfold Binary64.units Binary64.signedRank
  -- units and ranks ascend together, and the sign turns both around
  generalize unitsOfRank x.rank = u at *
  generalize unitsOfRank y.rank = v at *
  cases x.isNegative <;> cases y.isNegative <;>
    simp only [if_true, if_false, Bool.false_eq_true] <;> omega

theorem Binary64.compare_units (x y : Binary64) :
    Ord.compare x.units y.units = Ord.compare x.signedRank y.signedRank := by
  rcases lt_trichotomy x.signedRank y.signedRank with h | h | h
  · rw [compare_lt_iff_lt.2 h, compare_lt_iff_lt.2 ((Binary64.units_lt_iff x y).2 h)]
  · have hle : ¬ x.units < y.units := by rw [Binary64.units_lt_iff, h]; exact lt_irrefl _
    have hge : ¬ y.units < x.units := by rw [Binary64.units_lt_iff, h]; exact lt_irrefl _
    rw [compare_eq_iff_eq.2 h, compare_eq_iff_eq.2 (le_antisymm (not_lt.1 hge) (not_lt.1 hle))]
  · rw [compare_gt_iff_gt.2 h, compare_gt_iff_gt.2 ((Binary64.units_lt_iff y x).2 h)]

/-- The magnitude of what is not finite, in units. -/
theorem Binary64.units_of_not_finite {x : Binary64} (h : x.isFinite = false) :
    (x.isNegative = true → x.units ≤ -2 ^ 2098) ∧ (x.isNegative = false → 2 ^ 2098 ≤ x.units) := by
  have hrank : infiniteRank ≤ x.rank := Nat.not_lt.1 (of_decide_eq_false h)
  have hunits : ((2 ^ 2098 : Nat) : Int) ≤ (unitsOfRank x.rank : Int) := by
    rw [← Decimal.unitsOfRank_infinite]
    exact Int.ofNat_le.2 (strictMono_unitsOfRank.monotone hrank)
  rw [Nat.cast_pow] at hunits
  unfold Binary64.units
  constructor
  · intro hsign
    rw [if_pos hsign]
    exact Int.neg_le_neg hunits
  · intro hsign
    rw [if_neg (by simp [hsign])]
    exact hunits

namespace Engine.Cell

/-! ### Places -/

/-- The value of a number in units of 2⁻¹⁰⁷⁴; infinities stand beyond all integers. -/
def place : Cell → Int
  | .integer n => n.toInt * 2 ^ 1074
  | .real x => x.units
  | _ => 0

/-- The bytes of text or of a blob. -/
def content : Cell → List UInt8
  | .text bytes => bytes.data.toList
  | .blob bytes => bytes.data.toList
  | _ => []

/-- Integers of 64 bits stand before what is not finite. -/
theorem place_integer_lt (n : Int64) :
    n.toInt * 2 ^ 1074 < 2 ^ 2098 ∧ -2 ^ 2098 < n.toInt * 2 ^ 1074 := by
  have hsplit : (2 : Int) ^ 2098 = 2 ^ 1024 * 2 ^ 1074 := by rw [← Int.pow_add]
  have hpos : (0 : Int) < 2 ^ 1074 := Int.pow_pos (by decide)
  have hbound : (2 : Int) ^ 63 < 2 ^ 1024 := Int.pow_lt_pow_of_lt (by decide) (by decide)
  have hlow := Int64.le_toInt n
  have hhigh := Int64.toInt_lt n
  rw [hsplit, ← Int.neg_mul]
  exact ⟨Int.mul_lt_mul_of_pos_right (by omega) hpos, Int.mul_lt_mul_of_pos_right (by omega) hpos⟩

theorem compareInteger_eq (n : Int64) (x : Binary64) :
    compareInteger n x = Ord.compare (n.toInt * 2 ^ 1074) x.units := by
  unfold compareInteger
  split
  · rfl
  · next hfinite =>
    obtain ⟨hnegative, hpositive⟩ := Binary64.units_of_not_finite (Bool.eq_false_iff.2 hfinite)
    obtain ⟨hhigh, hlow⟩ := place_integer_lt n
    split
    · next hsign => exact (compare_gt_iff_gt.2 (lt_of_le_of_lt (hnegative hsign) hlow)).symm
    · next hsign =>
      exact (compare_lt_iff_lt.2
        (lt_of_lt_of_le hhigh (hpositive (Bool.eq_false_iff.2 hsign)))).symm

theorem compare_units_integers (m n : Int) :
    Ord.compare (m * 2 ^ 1074) (n * 2 ^ 1074) = Ord.compare m n := by
  have hpos : (0 : Int) < 2 ^ 1074 := Int.pow_pos (by decide)
  rcases lt_trichotomy m n with h | rfl | h
  · rw [compare_lt_iff_lt.2 h, compare_lt_iff_lt.2 (Int.mul_lt_mul_of_pos_right h hpos)]
  · rw [compare_eq_iff_eq.2 rfl, compare_eq_iff_eq.2 rfl]
  · rw [compare_gt_iff_gt.2 h, compare_gt_iff_gt.2 (Int.mul_lt_mul_of_pos_right h hpos)]

/-- The order of cells is that of kinds, then values, then bytes. -/
theorem compare_eq (a b : Cell) :
    a.compare b = compareLex (compareOn kindRank) (compareLex (compareOn place) (compareOn content))
      a b := by
  cases a <;> cases b <;>
    simp only [compare, compareLex, compareOn, kindRank, place, content, compareInteger_eq,
      compare_units_integers, Binary64.compare_units, compareBytes, Std.ReflOrd.compare_self,
      Ordering.then_eq, Ordering.eq_then]
  -- what is left are cells of different kinds, and a real before an integer
  all_goals first | rfl | exact Std.OrientedOrd.eq_swap.symm

instance : Std.TransCmp compare := by
  have heq : compare = compareLex (compareOn kindRank)
      (compareLex (compareOn place) (compareOn content)) := by
    funext a b
    exact compare_eq a b
  rw [heq]
  infer_instance

/-! ### Cells with the same place -/

section

variable {a b c : Cell}

theorem same_iff : a.same b = true ↔ a.compare b = .eq := by simp [same]

theorem same_refl (a : Cell) : a.same a = true := same_iff.2 Std.ReflCmp.compare_self

theorem same_symm (h : a.same b = true) : b.same a = true :=
  same_iff.2 (Std.OrientedCmp.eq_symm (same_iff.1 h))

theorem same_trans (h : a.same b = true) (h' : b.same c = true) : a.same c = true :=
  same_iff.2 (Std.TransCmp.eq_trans (same_iff.1 h) (same_iff.1 h'))

/-- Cells with the same place are the same as the same cells. -/
theorem same_congr (h : a.same b = true) (c : Cell) : a.same c = b.same c := by
  rw [Bool.eq_iff_iff]
  exact ⟨same_trans (same_symm h), same_trans h⟩

/-- Cells with the same places compare alike. -/
theorem compare_congr (h : a.same b = true) {c d : Cell} (h' : c.same d = true) :
    a.compare c = b.compare d := by
  rw [Std.TransCmp.congr_left (same_iff.1 h), Std.TransCmp.congr_right (same_iff.1 h')]

theorem same_null_iff : a.same .null = true ↔ a = .null := by
  cases a <;> simp [same, compare, kindRank]

theorem equals_iff : a.equals b = true ↔ a ≠ .null ∧ a.same b = true := by simp [equals]

/-! ### Ascending cells -/

theorem notAfter_iff : a.notAfter b = true ↔ (a.compare b).isLE = true := by
  unfold notAfter
  cases a.compare b <;> simp

theorem notAfter_refl (a : Cell) : a.notAfter a = true := notAfter_iff.2 Std.ReflCmp.isLE_rfl

theorem notAfter_trans (h : a.notAfter b = true) (h' : b.notAfter c = true) :
    a.notAfter c = true :=
  notAfter_iff.2 (Std.TransCmp.isLE_trans (notAfter_iff.1 h) (notAfter_iff.1 h'))

theorem notAfter_total (a b : Cell) : (a.notAfter b || b.notAfter a) = true := by
  unfold notAfter
  have hswap : b.compare a = (a.compare b).swap := Std.OrientedCmp.eq_swap
  rw [hswap]
  cases a.compare b <;> rfl

/-- What does not stand behind another cell and is not the same stands before it. -/
theorem compare_eq_lt (h : a.notAfter b = true) (hsame : a.same b = false) :
    a.compare b = .lt := by
  unfold notAfter at h
  unfold same at hsame
  cases hcompare : a.compare b <;> simp [hcompare] at h hsame ⊢

end

end Engine.Cell

end Crosstab

import Mathlib.Data.Int.Order.Basic
import Mathlib.Data.Prod.Lex
import Mathlib.Order.Compare
import Prism.Foundation.DoubleArithmetic

/-! # Comparisons of doubles

The laws of `<` and `≤` that hold of doubles whatever they are. NaN is below and above
nothing, so there are no laws on what is not smaller.
-/

namespace Prism

class LawfulComparisons (Double : Type) [DoubleArithmetic Double] : Prop where
  lt_trans : ∀ {first second third : Double},
    first < second → second < third → first < third
  le_of_le_of_lt : ∀ {first second third : Double},
    first ≤ second → second < third → first ≤ third
  le_of_lt_of_le : ∀ {first second third : Double},
    first < second → second ≤ third → first ≤ third

instance : LawfulComparisons ℝ where
  lt_trans := fun lt lt' => lt.trans lt'
  le_of_le_of_lt := fun le lt => le.trans lt.le
  le_of_lt_of_le := fun lt le => lt.le.trans le

/-! ## Machine doubles -/

namespace FloatOrder

open Float.Model

/-- What doubles are compared by: the sign with the kind, the exponent and the
mantissa. NaN has none of it. -/
def key : UnpackedFloat → Option (Int ×ₗ Int ×ₗ Int)
  | .notANumber => none
  | .infinity .negative => some (toLex (-2, toLex (0, 0)))
  | .finite .negative mantissa exponent _ =>
      some (toLex (-1, toLex (-exponent, -mantissa)))
  | .zero _ => some (toLex (0, toLex (0, 0)))
  | .finite .positive mantissa exponent _ =>
      some (toLex (1, toLex (exponent, mantissa)))
  | .infinity .positive => some (toLex (2, toLex (0, 0)))

theorem compare_cast (mantissa mantissa' : Nat) :
    compare mantissa mantissa' = compare (mantissa : Int) mantissa' := by
  simp [compare, compareOfLessAndEq]

theorem swap_compare (number number' : Int) :
    (compare number number').swap = compare (-number) (-number') := by
  rw [← Std.OrientedCmp.eq_swap]
  simp [compare, compareOfLessAndEq, eq_comm]

theorem compare_eq (first second : UnpackedFloat) :
    first.compare second =
      (key first).bind fun low => (key second).map fun high => compare low high := by
  rcases first with (_ | _) | _ | _ | ⟨_ | _, mantissa, exponent, positive⟩ <;>
    rcases second with (_ | _) | _ | _ | ⟨_ | _, mantissa', exponent', positive'⟩
  case finite.negative.finite.negative =>
      change some ((compare exponent exponent').then (compare mantissa mantissa')).swap = _
      rw [compare_cast, Ordering.swap_then, swap_compare, swap_compare]
      rfl
  case finite.positive.finite.positive =>
      change some ((compare exponent exponent').then (compare mantissa mantissa')) = _
      rw [compare_cast]
      rfl
  all_goals rfl

theorem lt_iff (first second : Float) :
    first < second ↔ ∃ low ∈ key first.toModel.unpack,
      ∃ high ∈ key second.toModel.unpack, low < high := by
  have isLess : first < second ↔
      first.toModel.unpack.lt second.toModel.unpack = true := by
    change decide (first.toModel < second.toModel) = true ↔ _
    exact decide_eq_true_iff
  rw [isLess, UnpackedFloat.lt, compare_eq]
  cases key first.toModel.unpack <;> cases key second.toModel.unpack <;>
    simp [compare_lt_iff_lt]

theorem le_iff (first second : Float) :
    first ≤ second ↔ ∃ low ∈ key first.toModel.unpack,
      ∃ high ∈ key second.toModel.unpack, low ≤ high := by
  have isLessOrEqual : first ≤ second ↔
      first.toModel.unpack.le second.toModel.unpack = true := by
    change decide (first.toModel ≤ second.toModel) = true ↔ _
    exact decide_eq_true_iff
  rw [isLessOrEqual, UnpackedFloat.le, compare_eq]
  cases key first.toModel.unpack <;> cases key second.toModel.unpack <;>
    simp [Ordering.isLE_iff_ne_gt, compare_gt_iff_gt]

end FloatOrder

instance : LawfulComparisons Float where
  lt_trans := by
    intro first second third lt lt'
    rcases (FloatOrder.lt_iff _ _).mp lt with ⟨low, isLow, middle, isMiddle, below⟩
    rcases (FloatOrder.lt_iff _ _).mp lt' with ⟨same, isSame, high, isHigh, above⟩
    cases Option.mem_unique isMiddle isSame
    exact (FloatOrder.lt_iff _ _).mpr ⟨low, isLow, high, isHigh, below.trans above⟩
  le_of_le_of_lt := by
    intro first second third le lt
    rcases (FloatOrder.le_iff _ _).mp le with ⟨low, isLow, middle, isMiddle, below⟩
    rcases (FloatOrder.lt_iff _ _).mp lt with ⟨same, isSame, high, isHigh, above⟩
    cases Option.mem_unique isMiddle isSame
    exact (FloatOrder.le_iff _ _).mpr ⟨low, isLow, high, isHigh, below.trans above.le⟩
  le_of_lt_of_le := by
    intro first second third lt le
    rcases (FloatOrder.lt_iff _ _).mp lt with ⟨low, isLow, middle, isMiddle, below⟩
    rcases (FloatOrder.le_iff _ _).mp le with ⟨same, isSame, high, isHigh, above⟩
    cases Option.mem_unique isMiddle isSame
    exact (FloatOrder.le_iff _ _).mpr ⟨low, isLow, high, isHigh, below.le.trans above⟩

end Prism

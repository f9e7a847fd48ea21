import Mathlib.Analysis.SpecialFunctions.Exp
import Mathlib.Analysis.SpecialFunctions.Log.Base

/-! # Arithmetic on doubles

The operations that a program performs on `double`, without laws. The model is
stated over any type with these operations: it runs on machine floats, and it is
the exact arithmetic of the reals where a result needs laws.
-/

namespace Prism

class DoubleArithmetic (Double : Type) extends Add Double, Sub Double, Mul Double,
    Div Double, Neg Double, LT Double, LE Double, OfScientific Double where
  ofInt : Int → Double
  exp : Double → Double
  log2 : Double → Double
  sqrt : Double → Double
  abs : Double → Double
  decidableLT : DecidableLT Double
  decidableLE : DecidableLE Double

namespace DoubleArithmetic

instance [DoubleArithmetic Double] : DecidableLT Double := decidableLT

instance [DoubleArithmetic Double] : DecidableLE Double := decidableLE

/-- `std::max`, which keeps its first argument unless it is the smaller one. -/
def max [DoubleArithmetic Double] (first second : Double) : Double :=
  if first < second then second else first

/-! ## Instances -/

instance : DoubleArithmetic Float where
  ofInt := Float.ofInt
  exp := Float.exp
  log2 := Float.log2
  sqrt := Float.sqrt
  abs := Float.abs
  decidableLT := fun first second => inferInstanceAs (Decidable (first < second))
  decidableLE := fun first second => inferInstanceAs (Decidable (first ≤ second))

noncomputable instance : DoubleArithmetic ℝ where
  ofInt := Int.cast
  exp := Real.exp
  log2 := Real.logb 2
  sqrt := Real.sqrt
  abs := fun value => |value|
  decidableLT := Real.decidableLT
  decidableLE := Real.decidableLE

@[simp] theorem max_real (first second : ℝ) :
    DoubleArithmetic.max first second = Max.max first second := by
  unfold DoubleArithmetic.max
  split
  · exact (max_eq_right (le_of_lt ‹_›)).symm
  · exact (max_eq_left (not_lt.mp ‹_›)).symm

end DoubleArithmetic

end Prism

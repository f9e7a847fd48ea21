import Mathlib.Algebra.BigOperators.Ring.List
import Mathlib.Algebra.Field.Basic
import Mathlib.Algebra.CharZero.Defs
import Mathlib.Algebra.Order.BigOperators.Group.List
import Mathlib.Algebra.Order.Field.Basic
import Mathlib.Data.Nat.Cast.Field
import Mathlib.Tactic.FieldSimp
import Mathlib.Tactic.Linarith
import Mathlib.Tactic.Ring

/-! # Mean and variance of a list

The variance is a quotient of integers in the values. Its numerator, the spread,
can be computed where division is out of reach.
-/

namespace Prism.Statistics

/-- The square of the number of values times their variance. -/
def spread {Value : Type u} [CommRing Value] (values : List Value) : Value :=
  values.length * (values.map (· ^ 2)).sum - values.sum ^ 2

section Ring

variable {Value : Type u} [CommRing Value]

theorem spread_map_mul_left (factor : Value) (values : List Value) :
    spread (values.map (factor * ·)) = factor ^ 2 * spread values := by
  have squares : ((values.map (factor * ·)).map (· ^ 2)).sum =
      factor ^ 2 * (values.map (· ^ 2)).sum := by
    simp only [List.map_map, Function.comp_def, mul_pow, List.sum_map_mul_left]
  have total : (values.map (factor * ·)).sum = factor * values.sum := by
    rw [List.sum_map_mul_left, List.map_id']
  rw [spread, squares, total, List.length_map, spread]
  ring

theorem map_spread {Value' : Type u'} [CommRing Value'] (hom : Value →+* Value')
    (values : List Value) :
    spread (values.map hom) = hom (spread values) := by
  simp [spread, map_list_sum, Function.comp_def]

theorem spread_of_length_le_one {values : List Value} (few : values.length ≤ 1) :
    spread values = 0 := by
  rcases values with _ | ⟨value, _ | ⟨second, rest⟩⟩
  · simp [spread]
  · simp [spread]
  · simp at few

theorem two_mul_sum_alternating (even odd : Value) (first count : Nat) :
    let value := fun index : Nat => if index % 2 = 0 then even else odd
    2 * ((List.range' first count).map value).sum =
      count * (even + odd) + (count % 2 : Nat) * (2 * value first - (even + odd)) := by
  intro value
  induction count generalizing first with
  | zero => simp
  | succ count induction =>
      have pair : value first + value (first + 1) = even + odd := by
        rcases Nat.mod_two_eq_zero_or_one first with isEven | isOdd
        · have next : (first + 1) % 2 = 1 := by omega
          simp [value, isEven, next]
        · have next : (first + 1) % 2 = 0 := by omega
          simp [value, isOdd, next, add_comm]
      have second : value (first + 1) = even + odd - value first := by
        rw [← pair]
        ring
      rw [List.range'_succ, List.map_cons, List.sum_cons, mul_add, induction, second]
      rcases Nat.mod_two_eq_zero_or_one count with isEven | isOdd
      · have next : (count + 1) % 2 = 1 := by omega
        rw [isEven, next]
        push_cast
        ring
      · have next : (count + 1) % 2 = 0 := by omega
        rw [isOdd, next]
        push_cast
        ring

theorem four_mul_spread_alternating (even odd : Value) (first count : Nat) :
    4 * spread ((List.range' first count).map fun index =>
        if index % 2 = 0 then even else odd) =
      ((count : Value) ^ 2 - (count % 2 : Nat)) * (even - odd) ^ 2 := by
  have sums := two_mul_sum_alternating even odd first count
  have squares := two_mul_sum_alternating (even ^ 2) (odd ^ 2) first count
  have squared : ∀ index : Nat, (if index % 2 = 0 then even else odd) ^ 2 =
      if index % 2 = 0 then even ^ 2 else odd ^ 2 := by
    intro index
    split <;> rfl
  have pieces : ∀ squareSum sum : Value,
      4 * (count * squareSum - sum ^ 2) =
        2 * count * (2 * squareSum) - (2 * sum) ^ 2 := by
    intro squareSum sum
    ring
  simp only [spread, List.length_map, List.length_range', List.map_map,
    Function.comp_def, squared]
  rw [pieces, squares, sums]
  rcases Nat.mod_two_eq_zero_or_one count with isEven | isOdd
  · rw [isEven]
    push_cast
    ring
  · rw [isOdd]
    dsimp only
    split
    · push_cast
      ring
    · push_cast
      ring

end Ring

theorem spread_le_length_mul_sq_sum {Value : Type u} [CommRing Value]
    [LinearOrder Value] [IsStrictOrderedRing Value] {values : List Value}
    (nonneg : ∀ value ∈ values, 0 ≤ value) :
    spread values ≤ values.length * values.sum ^ 2 := by
  have squares : (values.map (· ^ 2)).sum ≤ values.sum ^ 2 := by
    induction values with
    | nil => simp
    | cons value values induction =>
        rcases List.forall_mem_cons.mp nonneg with ⟨headNonneg, tailNonneg⟩
        have rest := induction tailNonneg
        have cross := mul_nonneg headNonneg (List.sum_nonneg tailNonneg)
        rw [List.map_cons, List.sum_cons, List.sum_cons]
        linarith [add_sq value values.sum]
  have scaled := mul_le_mul_of_nonneg_left squares
    (Nat.cast_nonneg (α := Value) values.length)
  rw [spread]
  linarith [sq_nonneg values.sum]

/-- Values between two bounds spread at most as far as if half of them were at
either bound. -/
theorem four_mul_spread_le {Value : Type u} [CommRing Value] [LinearOrder Value]
    [IsStrictOrderedRing Value] {values : List Value} {low high : Value}
    (within : ∀ value ∈ values, low ≤ value ∧ value ≤ high) :
    4 * spread values ≤ (values.length * (high - low)) ^ 2 := by
  have squares : (values.map (· ^ 2)).sum ≤
      (low + high) * values.sum - values.length * (low * high) := by
    induction values with
    | nil => simp
    | cons value values induction =>
        rcases List.forall_mem_cons.mp within with ⟨headWithin, tailWithin⟩
        have rest := induction tailWithin
        have between := mul_nonneg (sub_nonneg.mpr headWithin.1)
          (sub_nonneg.mpr headWithin.2)
        rw [List.map_cons, List.sum_cons, List.sum_cons, List.length_cons]
        push_cast
        linarith
  have scaled := mul_le_mul_of_nonneg_left squares
    (Nat.cast_nonneg (α := Value) values.length)
  rw [spread]
  linarith [sq_nonneg (2 * values.sum - values.length * (low + high))]

/-! ## The variance -/

section Field

variable {Value : Type u} [Field Value]

def mean (values : List Value) : Value := values.sum / values.length

def variance (values : List Value) : Value :=
  (values.map fun value => (value - mean values) ^ 2).sum / values.length

theorem sum_sq_sub (centre : Value) (values : List Value) :
    (values.map fun value => (value - centre) ^ 2).sum =
      (values.map (· ^ 2)).sum - 2 * centre * values.sum +
        values.length * centre ^ 2 := by
  induction values with
  | nil => simp
  | cons value values induction =>
      simp only [List.map_cons, List.sum_cons, List.length_cons, induction,
        Nat.cast_add, Nat.cast_one]
      ring

theorem variance_eq_spread_div [CharZero Value] (values : List Value) :
    variance values = spread values / values.length ^ 2 := by
  by_cases empty : values = []
  · simp [variance, spread, empty]
  · have nonzero : (values.length : Value) ≠ 0 :=
      Nat.cast_ne_zero.mpr (List.length_pos_iff.mpr empty).ne'
    rw [variance, sum_sq_sub, mean, spread]
    field_simp
    ring

theorem variance_nonneg [LinearOrder Value] [IsStrictOrderedRing Value]
    (values : List Value) : 0 ≤ variance values := by
  apply div_nonneg
  · apply List.sum_nonneg
    simp only [List.mem_map]
    rintro _ ⟨value, _, rfl⟩
    exact sq_nonneg _
  · exact Nat.cast_nonneg _

theorem four_mul_variance_le [LinearOrder Value] [IsStrictOrderedRing Value]
    {values : List Value} {low high : Value}
    (within : ∀ value ∈ values, low ≤ value ∧ value ≤ high) :
    4 * variance values ≤ (high - low) ^ 2 := by
  rw [variance_eq_spread_div, ← mul_div_assoc]
  apply div_le_of_le_mul₀ (sq_nonneg _) (sq_nonneg _)
  rw [← mul_pow, mul_comm (high - low)]
  exact four_mul_spread_le within

end Field

end Prism.Statistics

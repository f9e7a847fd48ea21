import Mathlib.Order.Lattice
import Mathlib.Order.Monotone.Basic

/-! # Bars

A bound that a value reaches or not, together with whether the bound itself counts.
-/

namespace Prism

structure Bar (Value : Type u) where
  bound : Value
  exclusive : Bool

namespace Bar

def map (transform : Value → Value') (bar : Bar Value) : Bar Value' where
  bound := transform bar.bound
  exclusive := bar.exclusive

variable {Value : Type u} [LinearOrder Value] {Value' : Type u'} [LinearOrder Value']

def Reached (bar : Bar Value) (value : Value) : Prop :=
  if bar.exclusive then bar.bound < value else bar.bound ≤ value

theorem not_reached_of_lt {bar : Bar Value} {value : Value} (lt : value < bar.bound) :
    ¬bar.Reached value := by
  cases exclusive : bar.exclusive with
  | false => simpa [Reached, exclusive] using lt
  | true => simpa [Reached, exclusive] using lt.le

theorem Reached.mono {bar : Bar Value} {value value' : Value}
    (reached : bar.Reached value) (le : value ≤ value') : bar.Reached value' := by
  cases exclusive : bar.exclusive with
  | false =>
      simp only [Reached, exclusive, Bool.false_eq_true, if_false] at reached ⊢
      exact reached.trans le
  | true =>
      simp only [Reached, exclusive, if_true] at reached ⊢
      exact reached.trans_le le

theorem reached_max_iff (bar : Bar Value) (first second : Value) :
    bar.Reached (max first second) ↔ bar.Reached first ∨ bar.Reached second := by
  constructor
  · intro reached
    rcases le_total first second with le | ge
    · rw [max_eq_right le] at reached
      exact .inr reached
    · rw [max_eq_left ge] at reached
      exact .inl reached
  · rintro (firstReached | secondReached)
    · exact firstReached.mono (le_max_left _ _)
    · exact secondReached.mono (le_max_right _ _)

theorem reached_max_congr_iff (bar : Bar Value) (common first second : Value) :
    (bar.Reached (max common first) ↔ bar.Reached (max common second)) ↔
      bar.Reached common ∨ (bar.Reached first ↔ bar.Reached second) := by
  rw [reached_max_iff, reached_max_iff]
  by_cases commonReached : bar.Reached common
  · simp [commonReached]
  · simp [commonReached]

theorem reached_map_iff {transform : Value → Value'} (mono : StrictMono transform)
    (bar : Bar Value) (value : Value) :
    (bar.map transform).Reached (transform value) ↔ bar.Reached value := by
  cases exclusive : bar.exclusive with
  | false => simp [Reached, map, exclusive, mono.le_iff_le]
  | true => simp [Reached, map, exclusive, mono.lt_iff_lt]

end Bar

end Prism

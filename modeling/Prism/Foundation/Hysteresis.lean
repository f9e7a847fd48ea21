import Mathlib.Order.Lattice
import Prism.Foundation.Machine

/-! # Hysteresis

A flag with two thresholds: it rises at the upper one and falls at the lower
one. Its state is a function of the whole history of values.
-/

namespace Prism

structure Band (Value : Type u) [LinearOrder Value] where
  lower : Value
  upper : Value
  lower_lt_upper : lower < upper

namespace Band

variable {Value : Type u} [LinearOrder Value]

def next (band : Band Value) (isOn : Bool) (value : Value) : Bool :=
  if isOn then decide (band.lower < value) else decide (band.upper ≤ value)

/-- The flag as a machine that observes itself after each step. -/
def flag (band : Band Value) : Machine Bool Value Bool where
  step isOn value := (band.next isOn value, band.next isOn value)

variable (band : Band Value)

/-- In either state a value at the upper threshold turns the flag on. -/
theorem next_iff (isOn : Bool) (value : Value) :
    band.next isOn value = true ↔
      band.upper ≤ value ∨ isOn = true ∧ band.lower < value := by
  cases isOn with
  | false => simp [next]
  | true =>
      have above : band.upper ≤ value → band.lower < value :=
        band.lower_lt_upper.trans_le
      simpa [next] using above

theorem next_mono {isOn isOn' : Bool} {value value' : Value}
    (later : isOn = true → isOn' = true) (greater : value ≤ value')
    (on : band.next isOn value = true) : band.next isOn' value' = true := by
  rcases (band.next_iff isOn value).mp on with reached | ⟨wasOn, above⟩
  · exact (band.next_iff isOn' value').mpr (.inl (reached.trans greater))
  · exact (band.next_iff isOn' value').mpr
      (.inr ⟨later wasOn, above.trans_le greater⟩)

/-! ## The flag as a function of the history -/

/-- The upper threshold was reached at this index or before it, and nothing since
has fallen to the lower one. -/
def HeldAt (values : List Value) (index : Nat) : Prop :=
  ∃ first ≤ index, (∃ value ∈ values[first]?, band.upper ≤ value) ∧
    ∀ later, first < later → later ≤ index →
      ∀ value ∈ values[later]?, band.lower < value

variable {band}

theorem heldAt_of_reached {values : List Value} {index : Nat} {value : Value}
    (isValue : values[index]? = some value) (reached : band.upper ≤ value) :
    band.HeldAt values index := by
  refine ⟨index, le_rfl, ⟨value, isValue, reached⟩, ?_⟩
  intro later after upTo
  omega

theorem HeldAt.mono {values : List Value} {index last : Nat}
    (held : band.HeldAt values index) (le : index ≤ last)
    (above : ∀ later, index < later → later ≤ last →
      ∀ value ∈ values[later]?, band.lower < value) :
    band.HeldAt values last := by
  rcases held with ⟨first, firstLe, reached, since⟩
  refine ⟨first, firstLe.trans le, reached, ?_⟩
  intro later after upTo value isValue
  rcases Nat.lt_or_ge index later with new | old
  · exact above later new upTo value isValue
  · exact since later after old value isValue

theorem heldAt_zero_iff {values : List Value} {value : Value}
    (isValue : values[0]? = some value) :
    band.HeldAt values 0 ↔ band.upper ≤ value := by
  constructor
  · intro held
    rcases held with ⟨first, firstLe, ⟨reachedValue, isReached, reached⟩, _⟩
    rw [Nat.le_zero.mp firstLe, isValue] at isReached
    rw [Option.some.inj isReached]
    exact reached
  · exact heldAt_of_reached isValue

theorem heldAt_succ_iff {values : List Value} {index : Nat} {value : Value}
    (isValue : values[index + 1]? = some value) :
    band.HeldAt values (index + 1) ↔
      band.upper ≤ value ∨ band.HeldAt values index ∧ band.lower < value := by
  constructor
  · intro held
    rcases held with ⟨first, firstLe, reached, since⟩
    rcases Nat.lt_or_eq_of_le firstLe with before | isLast
    · refine .inr ⟨⟨first, Nat.lt_succ_iff.mp before, reached, ?_⟩, ?_⟩
      · intro later after upTo
        exact since later after (Nat.le_succ_of_le upTo)
      · exact since (index + 1) before le_rfl value isValue
    · rcases reached with ⟨reachedValue, isReached, reached⟩
      rw [isLast, isValue] at isReached
      rw [Option.some.inj isReached]
      exact .inl reached
  · intro either
    rcases either with reached | ⟨held, above⟩
    · exact heldAt_of_reached isValue reached
    · refine held.mono (Nat.le_succ index) ?_
      intro later after upTo other isOther
      rw [Nat.le_antisymm upTo after, isValue] at isOther
      rw [← Option.some.inj isOther]
      exact above

/-- After each step the flag, off at first, is on exactly if the history holds
it. -/
theorem finalState_flag_iff {values : List Value} {index : Nat}
    (inRange : index < values.length) :
    band.flag.finalState false (values.take (index + 1)) = true ↔
      band.HeldAt values index := by
  have isValue := List.getElem?_eq_getElem inRange
  rw [band.flag.finalState_take_succ false isValue]
  change band.next _ _ = true ↔ _
  rw [band.next_iff]
  induction index with
  | zero => simp [heldAt_zero_iff isValue]
  | succ index induction =>
      have earlier := Nat.lt_of_succ_lt inRange
      have isEarlier := List.getElem?_eq_getElem earlier
      have before := induction earlier isEarlier
      rw [← band.next_iff] at before
      rw [band.flag.finalState_take_succ false isEarlier, heldAt_succ_iff isValue]
      exact or_congr_right (and_congr_left' before)

theorem flag_output_iff {values : List Value} {index : Nat} {isOn : Bool}
    (isOutput : (band.flag.outputs false values)[index]? = some isOn) :
    isOn = true ↔ band.HeldAt values index := by
  have inRange := (List.getElem?_eq_some_iff.mp isOutput).1
  rw [Machine.length_outputs] at inRange
  have isValue := List.getElem?_eq_getElem inRange
  rw [Machine.getElem?_outputs, isValue, Option.map_some, Option.some.injEq]
    at isOutput
  rw [← finalState_flag_iff inRange, band.flag.finalState_take_succ false isValue,
    ← isOutput]
  rfl

theorem exists_le_lower_of_not_heldAt {values : List Value} {index last : Nat}
    (held : band.HeldAt values index) (le : index ≤ last)
    (fallen : ¬band.HeldAt values last) :
    ∃ later, index < later ∧ later ≤ last ∧
      ∃ value ∈ values[later]?, value ≤ band.lower := by
  by_contra none
  refine fallen (held.mono le ?_)
  intro later after upTo value isValue
  by_contra atMost
  exact none ⟨later, after, upTo, value, isValue, not_lt.mp atMost⟩

end Band

end Prism

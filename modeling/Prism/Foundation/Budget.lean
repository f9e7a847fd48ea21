import Prism.Foundation.Machine

/-! # Loops with a budget

A loop that takes inputs until a budget is used up, where each step decides
whether it counts. What it takes stays within the budget exactly if the steps count.
-/

namespace Prism.Machine

variable {State : Type u} {Input : Type v}

/-- How many inputs are taken; the output of a step says whether it counts. -/
def taken (machine : Machine State Input Bool) : Nat → State → List Input → Nat
  | _, _, [] => 0
  | 0, _, _ :: _ => 0
  | budget + 1, state, input :: inputs =>
      let next := machine.step state input
      machine.taken (if next.2 then budget else budget + 1) next.1 inputs + 1

variable (machine : Machine State Input Bool)

theorem taken_le_length (budget : Nat) (state : State) (inputs : List Input) :
    machine.taken budget state inputs ≤ inputs.length := by
  induction inputs generalizing budget state with
  | nil => simp [taken]
  | cons input inputs induction =>
      cases budget with
      | zero => exact Nat.zero_le _
      | succ budget => exact Nat.succ_le_succ (induction _ _)

theorem min_le_taken (budget : Nat) (state : State) (inputs : List Input) :
    min budget inputs.length ≤ machine.taken budget state inputs := by
  induction inputs generalizing budget state with
  | nil => simp
  | cons input inputs induction =>
      cases budget with
      | zero => simp
      | succ budget =>
          rw [taken, List.length_cons]
          cases counts : (machine.step state input).2 with
          | true =>
              have rest := induction budget (machine.step state input).1
              simp only [if_true]
              omega
          | false =>
              have rest := induction (budget + 1) (machine.step state input).1
              simp only [Bool.false_eq_true, if_false]
              omega

/-- The loop takes no more than its budget exactly if there is no more to take or
every step counts until the budget is used up. -/
theorem taken_le_iff (budget : Nat) (state : State) (inputs : List Input) :
    machine.taken budget state inputs ≤ budget ↔
      inputs.length ≤ budget ∨
        machine.Along (fun state input => (machine.step state input).2 = true) state
          (inputs.take budget) := by
  induction inputs generalizing budget state with
  | nil => simp [taken]
  | cons input inputs induction =>
      cases budget with
      | zero => exact iff_of_true (Nat.le_refl 0) (.inr (machine.along_nil _ state))
      | succ budget =>
          rw [taken, List.length_cons, Nat.add_le_add_iff_right,
            Nat.add_le_add_iff_right, List.take_succ_cons, along_cons]
          cases counts : (machine.step state input).2 with
          | true =>
              simp only [if_true, true_and]
              exact induction budget _
          | false =>
              simp only [Bool.false_eq_true, if_false, false_and, or_false]
              have atLeast :=
                machine.min_le_taken (budget + 1) (machine.step state input).1 inputs
              have atMost :=
                machine.taken_le_length (budget + 1) (machine.step state input).1 inputs
              constructor <;> intro bounded <;> omega

end Prism.Machine

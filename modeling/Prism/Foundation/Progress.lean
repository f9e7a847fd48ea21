import Prism.Foundation.Machine

/-! # Ranks and credits

Two measures on the states of a machine. A rank comes down with every turn of one
kind, whatever else happens in between, so enough turns bring it to zero. A credit
pays for every output of one kind, so it bounds how many there are in a run.
-/

namespace Prism.Machine

variable {State : Type u} {Input : Type v} {Output : Type w}
  (machine : Machine State Input Output)

theorem along_of_forall_mem {Allowed : Input → Prop} (state : State)
    {inputs : List Input} (allowed : ∀ input ∈ inputs, Allowed input) :
    machine.Along (fun _ input => Allowed input) state inputs := by
  rintro before input after rfl
  exact allowed input (by simp)

/-! ## Ranks -/

/-- Each turn brings the rank down by one, and nothing brings it up. -/
def Descends (Invariant : State → Prop) (rank : State → Nat) (isTurn : Input → Bool) :
    Prop :=
  ∀ state input, Invariant state →
    Invariant (machine.step state input).1 ∧
      rank (machine.step state input).1 ≤ rank state - if isTurn input then 1 else 0

variable {machine}

theorem Descends.finalState {Invariant : State → Prop} {rank : State → Nat}
    {isTurn : Input → Bool} (descends : machine.Descends Invariant rank isTurn)
    {state : State} (initial : Invariant state) (inputs : List Input) :
    Invariant (machine.finalState state inputs) ∧
      rank (machine.finalState state inputs) ≤ rank state - inputs.countP isTurn := by
  induction inputs generalizing state with
  | nil => exact ⟨initial, Nat.le_refl _⟩
  | cons input inputs induction =>
      rcases descends state input initial with ⟨kept, lower⟩
      rcases induction kept with ⟨keptLater, lowerLater⟩
      refine ⟨keptLater, ?_⟩
      rw [finalState_cons, List.countP_cons]
      omega

theorem Descends.rank_eq_zero {Invariant : State → Prop} {rank : State → Nat}
    {isTurn : Input → Bool} (descends : machine.Descends Invariant rank isTurn)
    {state : State} (initial : Invariant state) {inputs : List Input}
    (enough : rank state ≤ inputs.countP isTurn) :
    rank (machine.finalState state inputs) = 0 := by
  have lower := (descends.finalState initial inputs).2
  omega

/-! ## Credits -/

/-- The outputs of one kind, each of which takes one from the credit, are no more
than the credit. -/
theorem countP_outputs_le_credit {Invariant : State → Prop} {credit : State → Nat}
    {isPaid : Output → Bool}
    (pays : ∀ state input, Invariant state →
      Invariant (machine.step state input).1 ∧
        (if isPaid (machine.step state input).2 then 1 else 0) +
          credit (machine.step state input).1 ≤ credit state)
    {state : State} (initial : Invariant state) (inputs : List Input) :
    (machine.outputs state inputs).countP isPaid ≤ credit state := by
  induction inputs generalizing state with
  | nil => exact Nat.zero_le _
  | cons input inputs induction =>
      rcases pays state input initial with ⟨kept, paid⟩
      have later := induction kept
      rw [outputs_cons, List.countP_cons]
      omega

/-- Where every output of one kind adds one to a counter, the counter tells how many
there were. -/
theorem countP_outputs_add_counter {Invariant : State → Prop} {counter : State → Nat}
    {isCounted : Output → Bool}
    (counts : ∀ state input, Invariant state →
      counter (machine.step state input).1 =
        (if isCounted (machine.step state input).2 then 1 else 0) + counter state)
    {state : State} {inputs : List Input}
    (always : machine.Always Invariant state inputs) :
    (machine.outputs state inputs).countP isCounted + counter state =
      counter (machine.finalState state inputs) := by
  induction inputs generalizing state with
  | nil => exact Nat.zero_add _
  | cons input inputs induction =>
      rcases (machine.always_cons Invariant state input inputs).mp always with
        ⟨here, later⟩
      have counted := counts state input here
      rw [outputs_cons, List.countP_cons, finalState_cons, ← induction later, counted]
      omega

end Prism.Machine

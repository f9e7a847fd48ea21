import Prism.Foundation.Machine

/-! # Machines in stages

A cascade hands each output of its first machine, as it appears, to its second.
Its run is the run of the second machine on everything the first one yields. A machine
can also keep another one inside, which it steps now and then.
-/

namespace Prism.Machine

variable {State : Type u} {Input : Type v} {Middle : Type w}
  {State' : Type u'} {Input' : Type v'} {Output : Type w'} {Output' : Type x}

/-- Feed the outputs of the first machine to the second. -/
def cascade (first : Machine State Input (Option Middle)) (feed : Middle → Input')
    (second : Machine State' Input' Output) :
    Machine (State × State') Input (Option (Middle × Output)) where
  step states input :=
    let here := first.step states.1 input
    match here.2 with
    | none => ((here.1, states.2), none)
    | some middle =>
        let there := second.step states.2 (feed middle)
        ((here.1, there.1), some (middle, there.2))

variable (first : Machine State Input (Option Middle)) (feed : Middle → Input')
  (second : Machine State' Input' Output)

theorem cascade_step_of_none {state : State} {input : Input}
    (silent : (first.step state input).2 = none) (state' : State') :
    (first.cascade feed second).step (state, state') input =
      (((first.step state input).1, state'), none) := by
  simp only [cascade, silent]

theorem cascade_step_of_some {state : State} {input : Input} {middle : Middle}
    (yields : (first.step state input).2 = some middle) (state' : State') :
    (first.cascade feed second).step (state, state') input =
      (((first.step state input).1, (second.step state' (feed middle)).1),
        some (middle, (second.step state' (feed middle)).2)) := by
  simp only [cascade, yields]

theorem finalState_cascade (state : State) (state' : State') (inputs : List Input) :
    (first.cascade feed second).finalState (state, state') inputs =
      (first.finalState state inputs,
        second.finalState state'
          ((first.outputs state inputs).reduceOption.map feed)) := by
  induction inputs generalizing state state' with
  | nil => rfl
  | cons input inputs induction =>
      rw [finalState_cons, outputs_cons, finalState_cons, reduceOption_cons]
      cases output : (first.step state input).2 with
      | none =>
          rw [cascade_step_of_none first feed second output, induction]
          rfl
      | some middle =>
          rw [cascade_step_of_some first feed second output, induction]
          rfl

theorem outputs_cascade (state : State) (state' : State') (inputs : List Input) :
    let yielded := (first.outputs state inputs).reduceOption
    let reported := ((first.cascade feed second).outputs (state, state')
      inputs).reduceOption
    reported.map Prod.fst = yielded ∧
      reported.map Prod.snd = second.outputs state' (yielded.map feed) := by
  induction inputs generalizing state state' with
  | nil => exact ⟨rfl, rfl⟩
  | cons input inputs induction =>
      simp only [outputs_cons, reduceOption_cons]
      cases output : (first.step state input).2 with
      | none =>
          rw [cascade_step_of_none first feed second output]
          exact induction _ _
      | some middle =>
          rw [cascade_step_of_some first feed second output]
          rcases induction (first.step state input).1
            (second.step state' (feed middle)).1 with ⟨sameFirst, sameSecond⟩
          constructor
          · exact congrArg (middle :: ·) sameFirst
          · exact congrArg (_ :: ·) sameSecond

/-! ## A machine inside another -/

/-- The part of the state that belongs to the inner machine changes by its steps only,
and the outputs show what it is asked and what it answers. -/
def Drives (machine : Machine State Input Output)
    (inner : Machine State' Input' (Option Output')) (part : State → State')
    (asked : Output → Option Input') (answered : Output → Option Output') : Prop :=
  ∀ state input,
    let next := machine.step state input
    (part next.1, answered next.2) = inner.passing.step (part state) (asked next.2)

variable {machine : Machine State Input Output}
  {inner : Machine State' Input' (Option Output')} {part : State → State'}
  {asked : Output → Option Input'} {answered : Output → Option Output'}

theorem Drives.outputs (drives : machine.Drives inner part asked answered)
    (state : State) (inputs : List Input) :
    (machine.outputs state inputs).map answered =
      inner.passing.outputs (part state) ((machine.outputs state inputs).map asked) := by
  induction inputs generalizing state with
  | nil => rfl
  | cons input inputs induction =>
      rcases Prod.ext_iff.mp (drives state input) with ⟨samePart, sameAnswer⟩
      simp only [outputs_cons, List.map_cons, induction, ← samePart, ← sameAnswer]

theorem Drives.answers (drives : machine.Drives inner part asked answered)
    (state : State) (inputs : List Input) :
    (machine.outputs state inputs).filterMap answered =
      (inner.outputs (part state)
        ((machine.outputs state inputs).filterMap asked)).reduceOption := by
  have onlyAsked : ((machine.outputs state inputs).map asked).reduceOption =
      (machine.outputs state inputs).filterMap asked := List.filterMap_map
  have onlyAnswered : ((machine.outputs state inputs).map answered).reduceOption =
      (machine.outputs state inputs).filterMap answered := List.filterMap_map
  rw [← onlyAsked, ← onlyAnswered, drives.outputs, outputs_passing]

end Prism.Machine

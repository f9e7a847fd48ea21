import Mathlib.Data.List.Basic
import Mathlib.Data.List.ReduceOption

/-! # Deterministic machines and their runs

A machine is one total step function. Everything the outside world may choose
(the order of events, the answers of a network) is part of the input, so a
statement about all input lists is a statement about all interleavings.
-/

namespace Prism

/-- A step function that observes one output for each input it consumes. -/
structure Machine (State : Type u) (Input : Type v) (Output : Type w) where
  step : State → Input → State × Output

namespace Machine

variable {State : Type u} {Input : Type v} {Output : Type w}

/-! ## Runs -/

def finalState (machine : Machine State Input Output) :
    State → List Input → State
  | state, [] => state
  | state, input :: inputs =>
      machine.finalState (machine.step state input).1 inputs

def outputs (machine : Machine State Input Output) :
    State → List Input → List Output
  | _, [] => []
  | state, input :: inputs =>
      (machine.step state input).2 ::
        machine.outputs (machine.step state input).1 inputs

variable (machine : Machine State Input Output)

@[simp] theorem finalState_nil (state : State) :
    machine.finalState state [] = state := rfl

@[simp] theorem finalState_cons (state : State) (input : Input)
    (inputs : List Input) :
    machine.finalState state (input :: inputs) =
      machine.finalState (machine.step state input).1 inputs := rfl

@[simp] theorem outputs_nil (state : State) : machine.outputs state [] = [] := rfl

@[simp] theorem outputs_cons (state : State) (input : Input)
    (inputs : List Input) :
    machine.outputs state (input :: inputs) =
      (machine.step state input).2 ::
        machine.outputs (machine.step state input).1 inputs := rfl

theorem finalState_append (state : State) (first second : List Input) :
    machine.finalState state (first ++ second) =
      machine.finalState (machine.finalState state first) second := by
  induction first generalizing state with
  | nil => rfl
  | cons input inputs induction => exact induction _

theorem outputs_append (state : State) (first second : List Input) :
    machine.outputs state (first ++ second) =
      machine.outputs state first ++
        machine.outputs (machine.finalState state first) second := by
  induction first generalizing state with
  | nil => rfl
  | cons input inputs induction =>
      simp only [List.cons_append, outputs_cons, finalState_cons, induction]

theorem exists_of_outputs_eq_append {state : State} {inputs : List Input}
    {first second : List Output}
    (equal : machine.outputs state inputs = first ++ second) :
    ∃ before after, inputs = before ++ after ∧
      machine.outputs state before = first ∧
      machine.outputs (machine.finalState state before) after = second := by
  induction first generalizing state inputs with
  | nil => exact ⟨[], inputs, rfl, rfl, equal⟩
  | cons output outputs induction =>
      cases inputs with
      | nil => cases equal
      | cons input inputs =>
          rcases List.cons.inj equal with ⟨isFirst, rest⟩
          rcases induction rest with ⟨before, after, split, outputsBefore, outputsAfter⟩
          refine ⟨input :: before, after, by rw [split, List.cons_append], ?_,
            outputsAfter⟩
          rw [outputs_cons, isFirst, outputsBefore]

theorem length_outputs (state : State) (inputs : List Input) :
    (machine.outputs state inputs).length = inputs.length := by
  induction inputs generalizing state with
  | nil => rfl
  | cons input inputs induction => exact congrArg (· + 1) (induction _)

theorem getElem?_outputs (state : State) (inputs : List Input) (index : Nat) :
    (machine.outputs state inputs)[index]? =
      inputs[index]?.map fun input =>
        (machine.step (machine.finalState state (inputs.take index)) input).2 := by
  induction inputs generalizing state index with
  | nil => rfl
  | cons input inputs induction =>
      cases index with
      | zero => rfl
      | succ index => exact induction _ index

theorem finalState_take_succ (state : State) {inputs : List Input} {index : Nat}
    {input : Input} (isInput : inputs[index]? = some input) :
    machine.finalState state (inputs.take (index + 1)) =
      (machine.step (machine.finalState state (inputs.take index)) input).1 := by
  rw [List.take_add_one, isInput, finalState_append]
  rfl

/-! ## Properties of runs -/

/-- Every state the run passes through, the first and the last included, has
the property. -/
def Always (Property : State → Prop) (state : State) (inputs : List Input) :
    Prop :=
  ∀ before, before <+: inputs → Property (machine.finalState state before)

/-- Every step of the run is allowed in the state it is taken from. -/
def Along (Allowed : State → Input → Prop) (state : State)
    (inputs : List Input) : Prop :=
  ∀ before input after, inputs = before ++ input :: after →
    Allowed (machine.finalState state before) input

theorem always_cons (Property : State → Prop) (state : State) (input : Input)
    (inputs : List Input) :
    machine.Always Property state (input :: inputs) ↔
      Property state ∧
        machine.Always Property (machine.step state input).1 inputs := by
  constructor
  · intro always
    refine ⟨always [] (List.nil_prefix), ?_⟩
    intro before isPrefix
    exact always (input :: before) (List.cons_prefix_cons.mpr ⟨rfl, isPrefix⟩)
  · rintro ⟨here, later⟩ before isPrefix
    cases before with
    | nil => exact here
    | cons first before =>
        rcases List.cons_prefix_cons.mp isPrefix with ⟨rfl, restPrefix⟩
        exact later before restPrefix

theorem along_nil (Allowed : State → Input → Prop) (state : State) :
    machine.Along Allowed state [] := by
  intro before input after equal
  simp at equal

theorem along_cons (Allowed : State → Input → Prop) (state : State)
    (input : Input) (inputs : List Input) :
    machine.Along Allowed state (input :: inputs) ↔
      Allowed state input ∧
        machine.Along Allowed (machine.step state input).1 inputs := by
  constructor
  · intro along
    refine ⟨along [] input inputs rfl, ?_⟩
    intro before next after equal
    exact along (input :: before) next after (by rw [equal, List.cons_append])
  · rintro ⟨here, later⟩ before next after equal
    cases before with
    | nil =>
        rcases List.cons.inj equal with ⟨rfl, _⟩
        exact here
    | cons first before =>
        rcases List.cons.inj equal with ⟨rfl, rest⟩
        exact later before next after rest

theorem along_congr {Allowed Allowed' : State → Input → Prop}
    (same : ∀ state input, Allowed state input ↔ Allowed' state input)
    (state : State) (inputs : List Input) :
    machine.Along Allowed state inputs ↔ machine.Along Allowed' state inputs := by
  unfold Along
  simp only [same]

/-- The run rule for invariants: a property kept by every allowed step holds
in every state of a run whose steps are all allowed. -/
theorem always_of_along {Invariant : State → Prop}
    {Allowed : State → Input → Prop}
    (preserved : ∀ state input, Invariant state → Allowed state input →
      Invariant (machine.step state input).1)
    {state : State} {inputs : List Input} (initial : Invariant state)
    (along : machine.Along Allowed state inputs) :
    machine.Always Invariant state inputs := by
  induction inputs generalizing state with
  | nil =>
      intro before isPrefix
      rw [List.prefix_nil.mp isPrefix]
      exact initial
  | cons input inputs induction =>
      rcases (machine.along_cons Allowed state input inputs).mp along with
        ⟨allowed, rest⟩
      exact (machine.always_cons Invariant state input inputs).mpr
        ⟨initial, induction (preserved state input initial allowed) rest⟩

/-- Where the allowed steps are exactly those that keep the invariant, the runs
that stay inside the invariant are exactly the runs of allowed steps. -/
theorem always_iff_along {Invariant : State → Prop}
    {Allowed : State → Input → Prop}
    (tight : ∀ state input, Invariant state →
      (Invariant (machine.step state input).1 ↔ Allowed state input))
    {state : State} {inputs : List Input} (initial : Invariant state) :
    machine.Always Invariant state inputs ↔
      machine.Along Allowed state inputs := by
  constructor
  · intro always before input after equal
    have reached : Invariant (machine.finalState state before) :=
      always before ⟨input :: after, equal.symm⟩
    have next : Invariant (machine.finalState state (before ++ [input])) :=
      always _ ⟨after, by simp [equal]⟩
    rw [finalState_append] at next
    exact (tight _ input reached).mp next
  · intro along
    exact machine.always_of_along
      (fun state input holds allowed => (tight state input holds).mpr allowed)
      initial along

theorem finalState_invariant {Invariant : State → Prop}
    (preserved : ∀ state input, Invariant state →
      Invariant (machine.step state input).1)
    {state : State} (initial : Invariant state) (inputs : List Input) :
    Invariant (machine.finalState state inputs) := by
  induction inputs generalizing state with
  | nil => exact initial
  | cons input inputs induction =>
      exact induction (preserved state input initial)

/-! ## Inputs that are passed over -/

/-- The machine with inputs added that it passes over in silence. -/
def passing (machine : Machine State Input (Option Output)) :
    Machine State (Option Input) (Option Output) where
  step
    | state, none => (state, none)
    | state, some input => machine.step state input

theorem reduceOption_cons (output : Option α) (outputs : List (Option α)) :
    (output :: outputs).reduceOption = output.toList ++ outputs.reduceOption := by
  cases output with
  | none => exact List.reduceOption_cons_of_none outputs
  | some seen => exact List.reduceOption_cons_of_some seen outputs

theorem outputs_passing (machine : Machine State Input (Option Output))
    (state : State) (inputs : List (Option Input)) :
    (machine.passing.outputs state inputs).reduceOption =
      (machine.outputs state inputs.reduceOption).reduceOption := by
  induction inputs generalizing state with
  | nil => rfl
  | cons input inputs induction =>
      rw [outputs_cons, reduceOption_cons, induction]
      cases input with
      | none => rw [List.reduceOption_cons_of_none]; rfl
      | some input =>
          rw [List.reduceOption_cons_of_some, outputs_cons, reduceOption_cons]
          rfl

theorem finalState_passing (machine : Machine State Input (Option Output))
    (state : State) (inputs : List (Option Input)) :
    machine.passing.finalState state inputs =
      machine.finalState state inputs.reduceOption := by
  induction inputs generalizing state with
  | nil => rfl
  | cons input inputs induction =>
      rw [finalState_cons, induction, reduceOption_cons, finalState_append]
      cases input with
      | none => rfl
      | some input => rfl

/-! ## Inputs without effect -/

def outputsFor {Input' : Type v'} (select : Input → Option Input') (inputs : List Input)
    (outputs : List Output) : List Output :=
  (inputs.zip outputs).filterMap fun step => (select step.1).map fun _ => step.2

/-- Of the inputs of a machine, those that are not selected leave its state as it is,
and those that are make the step of another machine. -/
structure Stuttering {Input' : Type v'} (machine : Machine State Input Output)
    (other : Machine State Input' Output) (select : Input → Option Input') : Prop where
  idle : ∀ state input, select input = none → (machine.step state input).1 = state
  shown : ∀ state input input', select input = some input' →
    machine.step state input = other.step state input'

namespace Stuttering

variable {Input' : Type v'} {machine : Machine State Input Output}
  {other : Machine State Input' Output} {select : Input → Option Input'}

theorem finalState (stuttering : Stuttering machine other select) (state : State)
    (inputs : List Input) :
    machine.finalState state inputs =
      other.finalState state (inputs.filterMap select) := by
  induction inputs generalizing state with
  | nil => rfl
  | cons input inputs induction =>
      rw [finalState_cons, induction]
      cases selected : select input with
      | none =>
          rw [List.filterMap_cons_none selected, stuttering.idle state input selected]
      | some input' =>
          rw [List.filterMap_cons_some selected, finalState_cons,
            stuttering.shown state input input' selected]

theorem outputs (stuttering : Stuttering machine other select) (state : State)
    (inputs : List Input) :
    outputsFor select inputs (machine.outputs state inputs) =
      other.outputs state (inputs.filterMap select) := by
  induction inputs generalizing state with
  | nil => rfl
  | cons input inputs induction =>
      have rest := induction (machine.step state input).1
      rw [outputsFor] at rest
      rw [outputsFor, outputs_cons, List.zip_cons_cons, List.filterMap_cons, rest,
        List.filterMap_cons]
      cases selected : select input with
      | none => rw [stuttering.idle state input selected]; rfl
      | some input' => rw [stuttering.shown state input input' selected]; rfl

end Stuttering

/-! ## Simulations -/

variable {State' : Type u'} {Input' : Type v'} {Output' : Type w'}

/-- A relation that matching steps preserve, between a machine and another one
that reads translated inputs and answers with translated outputs. -/
structure Simulation (machine : Machine State Input Output)
    (other : Machine State' Input' Output') (translate : Input → Input')
    (report : Output → Output') where
  Related : State → State' → Prop
  next : ∀ {state state'}, Related state state' → ∀ input,
    Related (machine.step state input).1
      (other.step state' (translate input)).1
  output : ∀ {state state'}, Related state state' → ∀ input,
    report (machine.step state input).2 =
      (other.step state' (translate input)).2

namespace Simulation

variable {machine : Machine State Input Output}
  {other : Machine State' Input' Output'} {translate : Input → Input'}
  {report : Output → Output'}

theorem finalState (simulation : Simulation machine other translate report)
    {state : State} {state' : State'} (related : simulation.Related state state')
    (inputs : List Input) :
    simulation.Related (machine.finalState state inputs)
      (other.finalState state' (inputs.map translate)) := by
  induction inputs generalizing state state' with
  | nil => exact related
  | cons input inputs induction =>
      exact induction (simulation.next related input)

theorem outputs (simulation : Simulation machine other translate report)
    {state : State} {state' : State'} (related : simulation.Related state state')
    (inputs : List Input) :
    (machine.outputs state inputs).map report =
      other.outputs state' (inputs.map translate) := by
  induction inputs generalizing state state' with
  | nil => rfl
  | cons input inputs induction =>
      simp only [outputs_cons, List.map_cons, simulation.output related input,
        induction (simulation.next related input)]

end Simulation

/-! ## Two runs -/

/-- Two machines on inputs that are related one by one: a relation between their
states that related inputs preserve, and under which they give related outputs,
relates all outputs of their runs. -/
theorem forall₂_outputs {machine : Machine State Input Output}
    {other : Machine State' Input' Output'} (Related : State → State' → Prop)
    {InputRelated : Input → Input' → Prop}
    {OutputRelated : Output → Output' → Prop}
    (next : ∀ state state' input input', Related state state' →
      InputRelated input input' →
        Related (machine.step state input).1 (other.step state' input').1 ∧
          OutputRelated (machine.step state input).2 (other.step state' input').2)
    {state : State} {state' : State'} (related : Related state state')
    {inputs : List Input} {inputs' : List Input'}
    (inputsRelated : List.Forall₂ InputRelated inputs inputs') :
    List.Forall₂ OutputRelated (machine.outputs state inputs)
      (other.outputs state' inputs') := by
  induction inputsRelated generalizing state state' with
  | nil => exact .nil
  | cons headRelated _ induction =>
      rcases next _ _ _ _ related headRelated with ⟨nextRelated, outputRelated⟩
      exact .cons outputRelated (induction nextRelated)

end Machine

end Prism

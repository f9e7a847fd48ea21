import Prism.Main.Loops
import Prism.System.Containment
import Prism.System.Latency

/-! # The defended plant

PRISM, the network and the PLC as one system. Packets are captured, clients send
frames and the PLC accepts connections in any order. From a flood of writes on,
the PLC is locked or about to be, and a locked PLC stays locked.
-/

namespace Prism.System

open Prism.Enforcement Prism.Main Prism.Simulator.Modbus

/-! ## The system -/

structure Plant where
  components : Components := {}
  plc : Server := {}
  inFlight : List Frame := []
  deriving DecidableEq

inductive PlantEvent
  /-- The capture hands PRISM a packet. -/
  | capture (packet : RawPacket)
  /-- Some client sends some bytes. -/
  | send (bytes : List UInt8)
  /-- The PLC accepts the connection at this position among those in flight. -/
  | deliver (index : Nat)

/-- What an event shows to the outside. -/
inductive PlantOutput (Double : Type)
  | evaluated (evaluation : Option (Evaluation Double))
  | network (output : LockOutput)

namespace Plant

/-- The plant as far as the lock is concerned. -/
def lock (plant : Plant) : LockState where
  engine := plant.components.enforcer
  plc := plant.plc
  inFlight := plant.inFlight

def withNetwork (plant : Plant) (state : LockState) : Plant :=
  { plant with plc := state.plc, inFlight := state.inFlight }

/-- What the pipeline sends while it takes in a record. -/
def framesOf {Double : Type} (evaluation : Option (Evaluation Double)) : List Frame :=
  (evaluation.map fun evaluated => LockState.framesOf evaluated.sends).getD []

variable {Double : Type} [DoubleArithmetic Double]

variable (Double) in
def step (environment : Environment) (plant : Plant) :
    PlantEvent → Plant × PlantOutput Double
  | .capture packet =>
      let next := (pipeline Double environment).passing.step plant.components
        (keptRecord packet)
      ({ plant with
          components := next.1
          inFlight := plant.inFlight ++ framesOf next.2 },
        .evaluated next.2)
  | .send bytes =>
      let next := plant.lock.step (.send bytes : LockEvent Double)
      (plant.withNetwork next.1, .network next.2)
  | .deliver index =>
      let next := plant.lock.step (.deliver index : LockEvent Double)
      (plant.withNetwork next.1, .network next.2)

variable (Double) in
def machine (environment : Environment) :
    Machine Plant PlantEvent (PlantOutput Double) where
  step := step Double environment

/-! ## What it is to the lock -/

/-- An event as the lock sees it: a captured packet is a decision, or nothing. -/
def lockEvents (environment : Environment) (plant : Plant) :
    PlantEvent → List (LockEvent Double)
  | .capture packet =>
      (((pipeline Double environment).passing.step plant.components
        (keptRecord packet)).2.map fun evaluation =>
          LockEvent.decide evaluation.decision
            (environment.answers plant.components.attempts)).toList
  | .send bytes => [.send bytes]
  | .deliver index => [.deliver index]

variable (Double) in
theorem pipeline_cases (environment : Environment) (components : Components)
    (record : ParsedRecord) :
    let next := (pipeline Double environment).step components record
    (next.2 = none ∧ next.1.enforcer = components.enforcer) ∨
      ∃ evaluation, next.2 = some evaluation ∧
        let applied := components.enforcer.apply evaluation.decision
          (environment.answers components.attempts)
        next.1.enforcer = applied.engine ∧ evaluation.sends = applied.sends ∧
          evaluation.window.records ≠ [] ∧
          evaluation.decision = (components.riskModel.evaluate
            (detect environment.orders evaluation.window)).2 := by
  intro next
  rcases pipeline_step_cases Double environment components record with
    ⟨_, isNext⟩ | ⟨evaluated, isNext⟩
  · rw [show next = _ from isNext]
    exact .inl ⟨rfl, rfl⟩
  · rw [show next = _ from isNext]
    exact .inr ⟨_, rfl, rfl, rfl, evaluated.2, rfl⟩

/-- The plant simulates engine, network and PLC; a packet that leads to no
decision is a step at which they rest. -/
theorem lock_step (environment : Environment) (plant : Plant) (event : PlantEvent) :
    (step Double environment plant event).1.lock =
      (LockState.machine Double).finalState plant.lock
        (lockEvents environment plant event) := by
  cases event with
  | send bytes => rfl
  | deliver index =>
      change (plant.withNetwork (plant.lock.step
        (.deliver index : LockEvent Double)).1).lock =
          (plant.lock.step (.deliver index : LockEvent Double)).1
      cases isFrame : plant.lock.inFlight[index]? with
      | none =>
          rw [LockState.step_deliver_none isFrame]
          rfl
      | some frame =>
          rw [LockState.step_deliver_some isFrame]
          rfl
  | capture packet =>
      cases kept : keptRecord packet with
      | none =>
          simp only [step, lockEvents, kept, Machine.passing, framesOf, lock,
            Option.map_none, Option.getD_none, List.append_nil, Option.toList_none,
            Machine.finalState_nil]
      | some record =>
          simp only [step, lockEvents, kept, Machine.passing, lock]
          rcases pipeline_cases Double environment plant.components record with
            ⟨silent, same⟩ | ⟨evaluation, evaluated, engine, sends, _⟩
          · simp only [silent, same, framesOf, Option.map_none, Option.getD_none,
              List.append_nil, Option.toList_none, Machine.finalState_nil]
          · simp only [evaluated, engine, sends, framesOf, Option.map_some,
              Option.getD_some, Option.toList_some, Machine.finalState_cons,
              Machine.finalState_nil]
            rfl

/-! ## What the steps of the plant preserve -/

def NoClientReleases (plant : Plant) : PlantEvent → Prop
  | .capture _ => True
  | .send _ => True
  | .deliver index => ∀ frame, plant.inFlight[index]? = some frame →
      frame.sender = .client → frame.command ≠ Server.releaseCommand

variable {environment : Environment} {plant : Plant} {event : PlantEvent}

theorem along_lockEvents (allowed : plant.NoClientReleases event) :
    (LockState.machine Double).Along (fun state event => ¬state.ClientReleases event)
      plant.lock (lockEvents environment plant event) := by
  cases event with
  | capture packet =>
      simp only [lockEvents]
      cases ((pipeline Double environment).passing.step plant.components
        (keptRecord packet)).2 with
      | none => exact Machine.along_nil _ _ _
      | some evaluation =>
          refine (Machine.along_cons _ _ _ _ _).mpr ⟨?_, Machine.along_nil _ _ _⟩
          intro releases
          rcases releases with ⟨frame, delivers, _⟩
          exact delivers
  | send bytes =>
      refine (Machine.along_cons _ _ _ _ _).mpr ⟨?_, Machine.along_nil _ _ _⟩
      intro releases
      rcases releases with ⟨frame, delivers, _⟩
      exact delivers
  | deliver index =>
      refine (Machine.along_cons _ _ _ _ _).mpr ⟨?_, Machine.along_nil _ _ _⟩
      intro releases
      rcases releases with ⟨frame, delivers, fromClient, release⟩
      exact allowed frame delivers fromClient release

theorem lock_invariant_step {Invariant : LockState → Prop}
    (preserved : ∀ (state : LockState) (event : LockEvent Double), Invariant state →
      ¬state.ClientReleases event → Invariant (state.step event).1)
    (holds : Invariant plant.lock) (allowed : plant.NoClientReleases event) :
    Invariant (step Double environment plant event).1.lock := by
  rw [lock_step]
  exact (LockState.machine Double).always_of_along preserved holds
    (along_lockEvents allowed) _ List.prefix_rfl

/-- The engine takes the lock for held only while it is or is about to be, and no
frame of its own releases it. -/
structure Guarded (state : LockState) : Prop where
  agreed : state.Agreed
  never : state.EngineNeverReleases

omit [DoubleArithmetic Double] in
theorem guarded_step (state : LockState) (event : LockEvent Double)
    (guarded : Guarded state) (noRelease : ¬state.ClientReleases event) :
    Guarded (state.step event).1 where
  agreed := by
    refine (LockState.agreed_step_iff event guarded.agreed).mpr ?_
    intro releases
    rcases releases with ⟨frame, delivers, release, _⟩
    cases sender : frame.sender with
    | client => exact noRelease ⟨frame, delivers, sender, release⟩
    | engine =>
        cases event with
        | decide decision answers => exact delivers
        | send bytes => exact delivers
        | deliver index =>
            exact guarded.never frame (List.mem_of_getElem? delivers) sender release
  never := LockState.engineNeverReleases_step event guarded.never

omit [DoubleArithmetic Double] in
theorem locked_step {state : LockState} (locked : state.engine.locked = true)
    (event : LockEvent Double) : (state.step event).1.engine.locked = true := by
  cases event with
  | decide decision answers =>
      rw [LockState.step_decide_of_locked locked]
      exact locked
  | send bytes => exact locked
  | deliver index =>
      cases isFrame : state.inFlight[index]? with
      | none =>
          rw [LockState.step_deliver_none isFrame]
          exact locked
      | some frame =>
          rw [LockState.step_deliver_some isFrame]
          exact locked

structure Defended (state : LockState) : Prop extends Guarded state where
  locked : state.engine.locked = true

omit [DoubleArithmetic Double] in
theorem defended_step (state : LockState) (event : LockEvent Double)
    (defended : Defended state) (noRelease : ¬state.ClientReleases event) :
    Defended (state.step event).1 where
  toGuarded := guarded_step state event defended.toGuarded noRelease
  locked := locked_step defended.locked event

variable (Double) in
def StaysLocked (environment : Environment) (plant : Plant) (event : PlantEvent) :
    Prop :=
  plant.plc.writeLocked = true →
    (step Double environment plant event).1.plc.writeLocked = true ∧
      ∀ frame reply,
        (step Double environment plant event).2 = .network (.answered frame reply) →
          LockState.Refuses frame reply

theorem staysLocked_of_guarded (guarded : Guarded plant.lock)
    (allowed : plant.NoClientReleases event) :
    StaysLocked Double environment plant event := by
  intro locked
  have contained : plant.lock.Contained := ⟨locked, guarded.never⟩
  refine ⟨?_, ?_⟩
  · have preserved : ∀ (state : LockState) (event : LockEvent Double),
        state.Contained → ¬state.ClientReleases event → (state.step event).1.Contained :=
      fun state event => LockState.contained_step event
    exact (lock_invariant_step preserved contained allowed).writeLocked
  · intro frame reply answered
    cases event with
    | capture packet => cases answered
    | send bytes =>
        exact LockState.refuses_of_contained contained (PlantOutput.network.inj answered)
    | deliver index =>
        exact LockState.refuses_of_contained contained (PlantOutput.network.inj answered)

/-! ## After a flood -/

theorem locked_of_evaluated_flood {packet : RawPacket} {evaluation : Evaluation ℝ}
    (evaluated : (step ℝ environment plant (.capture packet)).2 =
      .evaluated (some evaluation))
    (flood : IsWriteFlood evaluation.window)
    (reachable : (sendSafetyCoil
      (environment.answers plant.components.attempts) 0xFF00).sent = true) :
    (step ℝ environment plant
      (.capture packet)).1.components.enforcer.locked = true := by
  cases kept : keptRecord packet with
  | none =>
      simp only [step, kept, Machine.passing] at evaluated
      cases evaluated
  | some record =>
      simp only [step, kept, Machine.passing] at evaluated ⊢
      rcases pipeline_cases ℝ environment plant.components record with
        ⟨silent, _⟩ | ⟨other, isOther, engine, _, nonempty, decided⟩
      · rw [silent] at evaluated
        cases evaluated
      · rw [isOther] at evaluated
        cases evaluated
        rw [engine]
        have restricts := evaluate_restricts_of_flood environment.orders nonempty flood
          plant.components.riskModel
        rw [← decided, Attempting.restricts, Bool.and_eq_true, decide_eq_true_iff]
          at restricts
        cases locked : plant.components.enforcer.locked with
        | true =>
            rw [(EnforcementEngine.apply_eq_of_locked locked _ _).2]
            exact locked
        | false =>
            rw [EnforcementEngine.apply_of_unlocked restricts.1 restricts.2 locked,
              if_pos reachable]

/-- Defence in an interleaving of captured packets, clients' frames and
deliveries. If no client delivers the release command, then from the packet on
that gets a flood of writes evaluated, with a PLC that takes the frame, the PLC is
locked in every state or an engage frame is on its way to it; and at every event,
a PLC that is locked stays locked and refuses the write class. -/
theorem flood_defended (environment : Environment) (before after : List PlantEvent)
    (packet : RawPacket) (evaluation : Evaluation ℝ)
    (evaluated :
      ((machine ℝ environment).step ((machine ℝ environment).finalState {} before)
        (.capture packet)).2 = .evaluated (some evaluation))
    (flood : IsWriteFlood evaluation.window)
    (reachable : (sendSafetyCoil (environment.answers
      ((machine ℝ environment).finalState {} before).components.attempts)
        0xFF00).sent = true)
    (quiet : (machine ℝ environment).Along NoClientReleases {}
      (before ++ .capture packet :: after)) :
    let engaged :=
      (machine ℝ environment).finalState {} (before ++ [.capture packet])
    (machine ℝ environment).Always
        (fun plant => plant.components.enforcer.locked = true ∧
          (plant.plc.writeLocked = true ∨ plant.lock.EngageInFlight)) engaged after ∧
      (machine ℝ environment).Along (StaysLocked ℝ environment) engaged after := by
  intro engaged
  have guardedPreserved : ∀ (plant : Plant) (event : PlantEvent),
      Guarded plant.lock → plant.NoClientReleases event →
        Guarded (step ℝ environment plant event).1.lock :=
    fun plant event => lock_invariant_step guarded_step
  have defendedPreserved : ∀ (plant : Plant) (event : PlantEvent),
      Defended plant.lock → plant.NoClientReleases event →
        Defended (step ℝ environment plant event).1.lock :=
    fun plant event => lock_invariant_step defended_step
  have initially : Guarded ({} : Plant).lock := by
    constructor
    · intro locked
      cases locked
    · intro frame member
      cases member
  have quietBefore : (machine ℝ environment).Along NoClientReleases {} before := by
    intro first event rest equal
    exact quiet first event (rest ++ .capture packet :: after) (by simp [equal])
  have quietAfter : (machine ℝ environment).Along NoClientReleases engaged after := by
    intro first event rest equal
    rw [← Machine.finalState_append]
    exact quiet _ event rest (by simp [equal])
  have reached := (machine ℝ environment).always_of_along guardedPreserved initially
    quietBefore before List.prefix_rfl
  have defended : Defended engaged.lock := by
    simp only [engaged, Machine.finalState_append]
    refine ⟨guardedPreserved _ (.capture packet) reached trivial, ?_⟩
    exact locked_of_evaluated_flood evaluated flood reachable
  have always := (machine ℝ environment).always_of_along defendedPreserved defended
    quietAfter
  constructor
  · intro first isPrefix
    have here := always first isPrefix
    exact ⟨here.locked, here.agreed here.locked⟩
  · intro first event rest equal
    exact staysLocked_of_guarded (always first ⟨event :: rest, equal.symm⟩).toGuarded
      (quietAfter first event rest equal)

/-- Three writes in five seconds, and another one sent to the PLC. -/
theorem flood_defended_of_three_writes :
    let environment : Environment := ⟨.byInsertion, fun _ => .reachable⟩
    let write (seconds : Int) : RawPacket :=
      { timestamp := milliseconds (1000 * seconds)
        payload := Client.requestFrame 6 16 1
        srcPort := 1024
        dstPort := 502 }
    let engaged := (machine ℝ environment).finalState {}
      ([.capture (write 0), .capture (write 2)] ++ [.capture (write 5)])
    (machine ℝ environment).Always
      (fun plant => plant.components.enforcer.locked = true ∧
        (plant.plc.writeLocked = true ∨ plant.lock.EngageInFlight)) engaged
      [.send (Client.requestFrame 6 16 1)] := by
  intro environment write engaged
  refine (flood_defended environment [.capture (write 0), .capture (write 2)]
    [.send (Client.requestFrame 6 16 1)] (write 5) _ rfl ?_ ?_ ?_).1
  · decide
  · simp [environment]
  · simp only [List.cons_append, List.nil_append, Machine.along_cons]
    exact ⟨trivial, trivial, trivial, trivial, Machine.along_nil _ _ _⟩

end Plant

end Prism.System

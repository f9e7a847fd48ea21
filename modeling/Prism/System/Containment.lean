import Prism.Risk.ExactScores
import Prism.System.LockSystem

/-! # Containment

The risk model, the enforcement engine, the PLC and any other clients as one
closed system. As long as no client delivers the release command, a PLC that the
engine has locked refuses the write class for ever.
-/

namespace Prism.System

open Prism.Enforcement Prism.Risk Prism.Simulator.Modbus

namespace LockState

variable {Double : Type}

/-! ## What the engine can put on the wire -/

def EngineNeverReleases (state : LockState) : Prop :=
  ∀ frame ∈ state.inFlight, frame.sender = .engine →
    frame.command ≠ Server.releaseCommand

theorem command_of_send_ne_release (answers : SocketAnswers) {frame : Frame}
    (bytes : frame.bytes = (sendSafetyCoil answers 0xFF00).wire) :
    frame.command ≠ Server.releaseCommand := by
  cases sent : (sendSafetyCoil answers 0xFF00).sent with
  | true =>
      rw [command_of_sent sent bytes]
      decide
  | false =>
      have short : frame.bytes.length < 12 := by
        rw [bytes]
        exact length_wire_of_not_sent sent
      rw [Frame.command, decodeMbapPdu_of_short short]
      decide

theorem mem_framesOf_apply {engine : EnforcementEngine}
    {decision : RiskDecision Double} {answers : SocketAnswers} {frame : Frame}
    (member : frame ∈ framesOf (engine.apply decision answers).sends) :
    frame.sender = .engine ∧ frame.bytes = (sendSafetyCoil answers 0xFF00).wire := by
  rcases List.mem_filterMap.mp member with ⟨send, isSend, isFrame⟩
  rcases Frame.mem_ofBytes.mp isFrame with ⟨fromEngine, bytes⟩
  have onlySend : send = sendSafetyCoil answers 0xFF00 := by
    rcases engine.apply_cases decision answers with
      ⟨noSends, _⟩ | ⟨_, _, engaged⟩ | ⟨_, _, failed⟩
    · simp [noSends] at isSend
    · simpa [engaged] using isSend
    · simpa [failed] using isSend
  exact ⟨fromEngine, by rw [bytes, onlySend]⟩

theorem engineNeverReleases_step {state : LockState} (event : LockEvent Double)
    (never : state.EngineNeverReleases) :
    (state.step event).1.EngineNeverReleases := by
  cases event with
  | decide decision answers =>
      intro frame member fromEngine
      rcases List.mem_append.mp member with before | new
      · exact never frame before fromEngine
      · exact command_of_send_ne_release answers (mem_framesOf_apply new).2
  | send bytes =>
      intro frame member fromEngine
      rcases List.mem_append.mp member with before | new
      · exact never frame before fromEngine
      · have fromClient := (Frame.mem_ofBytes.mp (Option.mem_toList.mp new)).1
        rw [fromEngine] at fromClient
        cases fromClient
  | deliver index =>
      cases isFrame : state.inFlight[index]? with
      | none =>
          rw [step_deliver_none isFrame]
          exact never
      | some delivered =>
          rw [step_deliver_some isFrame]
          intro frame member
          exact never frame ((mem_inFlight_iff isFrame frame).mpr (.inr member))

/-! ## Contained states -/

def ClientReleases (state : LockState) (event : LockEvent Double) : Prop :=
  ∃ frame, state.Delivers event frame ∧ frame.sender = .client ∧
    frame.command = Server.releaseCommand

def EngineEngages (state : LockState) (event : LockEvent Double) : Prop :=
  ∃ frame, state.Delivers event frame ∧ frame.sender = .engine ∧
    frame.command = Server.engageCommand

structure Contained (state : LockState) : Prop where
  writeLocked : state.plc.writeLocked = true
  never : state.EngineNeverReleases

theorem contained_of_engineEngages {state : LockState} {event : LockEvent Double}
    (never : state.EngineNeverReleases) (engages : state.EngineEngages event) :
    (state.step event).1.Contained := by
  have neverNext := engineNeverReleases_step event never
  rcases engages with ⟨frame, delivers, _, engage⟩
  refine ⟨?_, neverNext⟩
  cases event with
  | decide decision answers => exact delivers.elim
  | send bytes => exact delivers.elim
  | deliver index =>
      rw [step_deliver_some delivers]
      simp [Server.writeLocked_respond, engage]

theorem contained_step {state : LockState} (event : LockEvent Double)
    (contained : state.Contained) (noRelease : ¬state.ClientReleases event) :
    (state.step event).1.Contained := by
  refine ⟨?_, engineNeverReleases_step event contained.never⟩
  cases event with
  | decide decision answers => exact contained.writeLocked
  | send bytes => exact contained.writeLocked
  | deliver index =>
      cases isFrame : state.inFlight[index]? with
      | none =>
          rw [step_deliver_none isFrame]
          exact contained.writeLocked
      | some frame =>
          have notRelease : frame.command ≠ Server.releaseCommand := by
            cases sender : frame.sender with
            | engine =>
                exact contained.never frame (List.mem_of_getElem? isFrame) sender
            | client =>
                intro release
                exact noRelease ⟨frame, isFrame, sender, release⟩
          rw [step_deliver_some isFrame]
          simp [Server.writeLocked_respond, notRelease, contained.writeLocked]

/-! ## What a contained PLC answers -/

/-- Write-class frames that are not safety-coil traffic are refused with the
nine-byte exception and not served; all other functions are served. -/
def Refuses (frame : Frame) (reply : Option (List UInt8)) : Prop :=
  let function := frame.command.function
  (isWriteFc function = true ∧
      ¬(function = 5 ∧ frame.command.address = 0xFFFF) →
    reply = some [0, 1, 0, 0, 0, 3, 1, function ||| 0x80, 1] ∧
      ∀ p : PDU, reply ≠ some (encodeMbapPdu p)) ∧
  (isWriteFc function = false → reply = some (encodeMbapPdu frame.command))

theorem refuses_of_contained {state : LockState} (contained : state.Contained)
    {event : LockEvent Double} {frame : Frame} {reply : Option (List UInt8)}
    (answered : (state.step event).2 = .answered frame reply) :
    Refuses frame reply := by
  cases event with
  | decide decision answers => cases answered
  | send bytes => cases answered
  | deliver index =>
      cases isFrame : state.inFlight[index]? with
      | none =>
          rw [step_deliver_none isFrame] at answered
          cases answered
      | some delivered =>
          rw [step_deliver_some isFrame] at answered
          cases answered
          constructor
          · intro blocked
            have refused :=
              (Server.respond_eq_exception_iff contained.writeLocked _).mpr blocked
            rw [refused]
            refine ⟨rfl, ?_⟩
            intro p equal
            exact encodeException_ne_encodeMbapPdu _ _ p (Option.some.inj equal)
          · intro notWrite
            simp [Server.respond_reply, notWrite]

end LockState

/-! ## The closed system -/

structure ClosedState where
  risk : RiskModel := {}
  lock : LockState := {}
  deriving DecidableEq

inductive ClosedEvent (Double : Type)
  | detect (detection : DetectionResult Double) (answers : SocketAnswers)
  | send (bytes : List UInt8)
  | deliver (index : Nat)

namespace ClosedState

variable {Double : Type} [DoubleArithmetic Double]

/-- What the event is to engine, network and PLC: a detection reaches them as
the decision it is evaluated to. -/
def lockEvent (state : ClosedState) : ClosedEvent Double → LockEvent Double
  | .detect detection answers => .decide (state.risk.evaluate detection).2 answers
  | .send bytes => .send bytes
  | .deliver index => .deliver index

def nextRisk (state : ClosedState) : ClosedEvent Double → RiskModel
  | .detect detection _ => (state.risk.evaluate detection).1
  | .send _ => state.risk
  | .deliver _ => state.risk

def step (state : ClosedState) (event : ClosedEvent Double) :
    ClosedState × LockOutput :=
  let next := state.lock.step (state.lockEvent event)
  ({ risk := state.nextRisk event, lock := next.1 }, next.2)

variable (Double) in
def machine : Machine ClosedState (ClosedEvent Double) LockOutput where
  step := step

def NoClientReleases (state : ClosedState) (event : ClosedEvent Double) : Prop :=
  ¬state.lock.ClientReleases (state.lockEvent event)

/-- The PLC is locked, and if the event makes it answer a frame, it refuses what
it has to. -/
def Contains (state : ClosedState) (event : ClosedEvent Double) : Prop :=
  (state.step event).1.lock.plc.writeLocked = true ∧
    ∀ frame reply, (state.step event).2 = .answered frame reply →
      LockState.Refuses frame reply

theorem lock_step_of_tauOn_le {state : ClosedState}
    {detection : DetectionResult Double} (off : state.risk.isOn = false)
    (reached : RiskModel.tauOn ≤ RiskModel.pMax detection)
    (unlocked : state.lock.engine.locked = false) :
    (state.step (.detect detection .reachable)).1 =
      { risk := { isOn := true }
        lock :=
          { state.lock with
            engine := { locked := true }
            inFlight := state.lock.inFlight ++ [Frame.engage] } } := by
  have evaluated := RiskModel.evaluate_of_tauOn_le off reached
  have applied : state.lock.engine.apply
      (⟨.High, true, true, RiskModel.pMax detection⟩ : RiskDecision Double)
        .reachable = _ :=
    EnforcementEngine.apply_reachable_of_unlocked rfl rfl unlocked
  simp only [step, nextRisk, lockEvent, LockState.step, evaluated, applied]
  rfl

theorem noClientReleases_of_silent {state : ClosedState} {event : ClosedEvent Double}
    (silent : ∀ frame, ¬state.lock.Delivers (state.lockEvent event) frame) :
    NoClientReleases state event := by
  intro releases
  rcases releases with ⟨frame, delivers, _⟩
  exact silent frame delivers

theorem noClientReleases_deliver {state : ClosedState} {index : Nat} {frame : Frame}
    (isFrame : state.lock.inFlight[index]? = some frame)
    (notRelease : frame.command ≠ Server.releaseCommand) :
    NoClientReleases state (.deliver index : ClosedEvent Double) := by
  intro releases
  rcases releases with ⟨delivered, delivers, _, release⟩
  cases isFrame.symm.trans delivers
  exact notRelease release

theorem engineNeverReleases_finalState (events : List (ClosedEvent Double)) :
    ((machine Double).finalState {} events).lock.EngineNeverReleases := by
  have preserved : ∀ (state : ClosedState) (event : ClosedEvent Double),
      state.lock.EngineNeverReleases →
        ((machine Double).step state event).1.lock.EngineNeverReleases := by
    intro state event never
    exact LockState.engineNeverReleases_step _ never
  apply (machine Double).finalState_invariant preserved
  intro frame member
  cases member

/-- Containment after the lock. If in an interleaving no client delivers the
release command, then after the delivery of an engage frame of the engine the
PLC is locked in every state and refuses the write class at every event. -/
theorem containment_after_lock (before after : List (ClosedEvent Double))
    (engaging : ClosedEvent Double)
    (engages : ((machine Double).finalState {} before).lock.EngineEngages
      (((machine Double).finalState {} before).lockEvent engaging))
    (quiet : (machine Double).Along NoClientReleases {} (before ++ engaging :: after)) :
    let engaged := (machine Double).finalState {} (before ++ [engaging])
    (machine Double).Always (fun state => state.lock.plc.writeLocked = true)
        engaged after ∧
      (machine Double).Along Contains engaged after := by
  intro engaged
  have initial : engaged.lock.Contained := by
    simp only [engaged, Machine.finalState_append]
    exact LockState.contained_of_engineEngages
      (engineNeverReleases_finalState before) engages
  have quietAfter : (machine Double).Along NoClientReleases engaged after := by
    intro first event rest equal
    rw [← Machine.finalState_append]
    exact quiet _ event rest (by simp [equal])
  have preserved : ∀ (state : ClosedState) (event : ClosedEvent Double),
      state.lock.Contained → NoClientReleases state event →
        ((machine Double).step state event).1.lock.Contained := by
    intro state event contained allowed
    exact LockState.contained_step _ contained allowed
  have always := (machine Double).always_of_along preserved initial quietAfter
  constructor
  · intro first isPrefix
    exact (always first isPrefix).writeLocked
  · intro first event rest equal
    have here := always first ⟨event :: rest, equal.symm⟩
    exact ⟨(preserved _ event here (quietAfter first event rest equal)).writeLocked,
      fun frame reply answered => LockState.refuses_of_contained here answered⟩

/-- A detection that engages, the delivery of the engage frame, a detection that
turns the hysteresis off again, and a client's write. -/
theorem containment_after_lock_of_write :
    let engage : ClosedEvent ℝ := .detect ⟨100, 0⟩ .reachable
    let subside : ClosedEvent ℝ := .detect ⟨0, 0⟩ .reachable
    let write : ClosedEvent ℝ := .send (Client.requestFrame 6 16 1)
    let engaged := (machine ℝ).finalState {} ([engage] ++ [.deliver 0])
    (machine ℝ).Always (fun state => state.lock.plc.writeLocked = true) engaged
        [subside, write, .deliver 0] ∧
      (machine ℝ).Along Contains engaged [subside, write, .deliver 0] := by
  intro engage subside write
  have reached : RiskModel.tauOn ≤ RiskModel.pMax (⟨100, 0⟩ : DetectionResult ℝ) :=
    RiskModel.tauOn_le_pMax (by norm_num)
  have first : (step {} engage).1 = ⟨⟨true⟩, ⟨⟨true⟩, ⟨false⟩, [Frame.engage]⟩⟩ :=
    lock_step_of_tauOn_le rfl reached rfl
  have second : (step ⟨⟨true⟩, ⟨⟨true⟩, ⟨false⟩, [Frame.engage]⟩⟩
      (.deliver 0 : ClosedEvent ℝ)).1 = ⟨⟨true⟩, ⟨⟨true⟩, ⟨true⟩, []⟩⟩ := by
    decide
  have third : (step (step ⟨⟨true⟩, ⟨⟨true⟩, ⟨true⟩, []⟩⟩ subside).1 write).1.lock =
      ⟨⟨true⟩, ⟨true⟩,
        [⟨.client, Client.requestFrame 6 16 1, List.cons_ne_nil _ _⟩]⟩ := by
    change (LockState.step (step _ subside).1.lock (.send _ : LockEvent ℝ)).1 = _
    rw [show (step _ subside).1.lock = _ from LockState.step_decide_of_locked rfl _ _]
    decide
  apply containment_after_lock [engage] [subside, write, .deliver 0] (.deliver 0)
  · simp only [Machine.finalState_cons, Machine.finalState_nil, machine, first]
    exact ⟨Frame.engage, rfl, rfl, by decide⟩
  · simp only [List.cons_append, List.nil_append, Machine.along_cons, machine, first,
      second]
    refine ⟨noClientReleases_of_silent fun _ delivers => delivers,
      noClientReleases_deliver rfl (by decide),
      noClientReleases_of_silent fun _ delivers => delivers,
      noClientReleases_of_silent fun _ delivers => delivers, ?_,
      Machine.along_nil _ _ _⟩
    apply noClientReleases_deliver (by rw [third]; rfl)
    decide

end ClosedState

end Prism.System

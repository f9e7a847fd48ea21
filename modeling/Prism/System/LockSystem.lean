import Mathlib.Data.List.Perm.Basic
import Prism.Foundation.Machine
import Prism.Agreement.Codecs

/-! # The enforcement engine, the PLC and the network between them

Two copies of one fact, the engine's `locked_` and the PLC's `write_locked`, and
the frames in flight between them. Sends succeed, fail or stop short; frames are
delivered one by one in any order; any client may send any bytes at any time.
-/

namespace Prism.System

open Prism.Enforcement Prism.Simulator.Modbus

/-! ## Frames in flight -/

inductive Sender
  | engine
  | client
  deriving DecidableEq, Repr

/-- What one connection to the PLC carries. A connection over which no byte is
sent carries no frame. -/
structure Frame where
  sender : Sender
  bytes : List UInt8
  nonempty : bytes ≠ []
  deriving DecidableEq

namespace Frame

def ofBytes (sender : Sender) (bytes : List UInt8) : Option Frame :=
  if empty : bytes = [] then none else some ⟨sender, bytes, empty⟩

def engage : Frame := ⟨.engine, safetyCoilFrame 0xFF00, List.cons_ne_nil _ _⟩

/-- The command the PLC will decode the frame to. -/
def command (frame : Frame) : PDU := decodeMbapPdu frame.bytes

theorem mem_ofBytes {sender : Sender} {bytes : List UInt8} {frame : Frame} :
    frame ∈ ofBytes sender bytes ↔ frame.sender = sender ∧ frame.bytes = bytes := by
  rcases frame with ⟨frameSender, frameBytes, nonempty⟩
  unfold ofBytes
  by_cases empty : bytes = []
  · simp [empty, nonempty]
  · simp only [dif_neg empty, Option.mem_some_iff, mk.injEq]
    exact and_congr eq_comm eq_comm

end Frame

/-! ## States and events -/

structure LockState where
  engine : EnforcementEngine := {}
  plc : Server := {}
  inFlight : List Frame := []
  deriving DecidableEq

inductive LockEvent (Double : Type)
  /-- PRISM applies a decision; the operating system answers the socket calls. -/
  | decide (decision : RiskDecision Double) (answers : SocketAnswers)
  /-- Some client sends some bytes. -/
  | send (bytes : List UInt8)
  /-- The PLC accepts the connection at this position among those in flight. -/
  | deliver (index : Nat)

/-- What an event shows to the outside. -/
inductive LockOutput
  | applied (report : String)
  | answered (frame : Frame) (reply : Option (List UInt8))
  | silent

namespace LockState

def framesOf (sends : List Send) : List Frame :=
  sends.filterMap fun send => Frame.ofBytes .engine send.wire

variable {Double : Type}

def step (state : LockState) : LockEvent Double → LockState × LockOutput
  | .decide decision answers =>
      let applied := state.engine.apply decision answers
      ({ state with
          engine := applied.engine
          inFlight := state.inFlight ++ framesOf applied.sends },
        .applied applied.report)
  | .send bytes =>
      ({ state with
          inFlight := state.inFlight ++ (Frame.ofBytes .client bytes).toList },
        .silent)
  | .deliver index =>
      match state.inFlight[index]? with
      | none => (state, .silent)
      | some frame =>
          let served := state.plc.serve frame.bytes
          ({ state with
              plc := served.1
              inFlight := state.inFlight.eraseIdx index },
            .answered frame served.2)

variable (Double) in
def machine : Machine LockState (LockEvent Double) LockOutput where
  step := step

/-! ## What an event can do -/

theorem step_deliver_none {state : LockState} {index : Nat}
    (nothing : state.inFlight[index]? = none) :
    state.step (.deliver index : LockEvent Double) = (state, .silent) := by
  simp [step, nothing]

theorem step_deliver_some {state : LockState} {index : Nat} {frame : Frame}
    (isFrame : state.inFlight[index]? = some frame) :
    state.step (.deliver index : LockEvent Double) =
      ({ state with
          plc := (state.plc.respond frame.command).1
          inFlight := state.inFlight.eraseIdx index },
        .answered frame (some (state.plc.respond frame.command).2)) := by
  simp only [step, isFrame, Server.serve_of_nonempty _ frame.nonempty]
  rfl

def Delivers (state : LockState) (event : LockEvent Double) (frame : Frame) : Prop :=
  match event with
  | .decide _ _ => False
  | .send _ => False
  | .deliver index => state.inFlight[index]? = some frame

theorem mem_inFlight_iff {state : LockState} {index : Nat} {frame : Frame}
    (isFrame : state.inFlight[index]? = some frame) (other : Frame) :
    other ∈ state.inFlight ↔
      other = frame ∨ other ∈ state.inFlight.eraseIdx index := by
  rcases List.getElem?_eq_some_iff.mp isFrame with ⟨inRange, isElement⟩
  rw [← (List.getElem_cons_eraseIdx_perm inRange).mem_iff, isElement,
    List.mem_cons]

theorem step_decide_of_locked {state : LockState} (locked : state.engine.locked = true)
    (decision : RiskDecision Double) (answers : SocketAnswers) :
    (state.step (.decide decision answers)).1 = state := by
  rcases EnforcementEngine.apply_eq_of_locked locked decision answers with
    ⟨noSends, unchanged⟩
  simp [step, noSends, unchanged, framesOf]

theorem command_of_sent {answers : SocketAnswers} {frame : Frame}
    (sent : (sendSafetyCoil answers 0xFF00).sent = true)
    (bytes : frame.bytes = (sendSafetyCoil answers 0xFF00).wire) :
    frame.command = Server.engageCommand := by
  rw [Frame.command, bytes, wire_of_sent sent, Agreement.safetyCoilFrame_eq,
    decode_encode]
  rfl

/-! ## Agreement -/

def EngageInFlight (state : LockState) : Prop :=
  ∃ frame ∈ state.inFlight, frame.command = Server.engageCommand

/-- The engine believes the lock to be held only if it is, or is about to be. -/
def Agreed (state : LockState) : Prop :=
  state.engine.locked = true →
    state.plc.writeLocked = true ∨ state.EngageInFlight

/-- The event hands the PLC a release command while the engine takes the lock
for held and no engage frame is in flight. -/
def ReleasesHeldLock (state : LockState) (event : LockEvent Double) : Prop :=
  ∃ frame, state.Delivers event frame ∧ frame.command = Server.releaseCommand ∧
    state.engine.locked = true ∧ ¬state.EngageInFlight

theorem engageInFlight_append {state : LockState} (engaging : state.EngageInFlight)
    (engine : EnforcementEngine) (plc : Server) (frames : List Frame) :
    EngageInFlight ⟨engine, plc, state.inFlight ++ frames⟩ := by
  rcases engaging with ⟨frame, member, engages⟩
  exact ⟨frame, List.mem_append_left _ member, engages⟩

theorem agreed_decide {state : LockState} (agreed : state.Agreed)
    (decision : RiskDecision Double) (answers : SocketAnswers) :
    (state.step (.decide decision answers)).1.Agreed := by
  intro locked
  rcases state.engine.apply_cases decision answers with
    ⟨_, unchanged, _⟩ | ⟨_, sent, engaged⟩ | ⟨unlocked, _, failed⟩
  · simp only [step, unchanged] at locked
    exact (agreed locked).imp id fun engaging => engageInFlight_append engaging _ _ _
  · right
    have wire := wire_of_sent sent
    have nonempty : (sendSafetyCoil answers 0xFF00).wire ≠ [] := by
      rw [wire]
      simp [safetyCoilFrame]
    refine ⟨⟨.engine, _, nonempty⟩, ?_, command_of_sent sent rfl⟩
    apply List.mem_append_right
    apply List.mem_filterMap.mpr
    refine ⟨sendSafetyCoil answers 0xFF00, by simp [engaged], ?_⟩
    exact Frame.mem_ofBytes.mpr ⟨rfl, rfl⟩
  · simp [step, failed, unlocked] at locked

theorem engageInFlight_eraseIdx_iff {state : LockState} {index : Nat}
    {frame : Frame} (isFrame : state.inFlight[index]? = some frame)
    (notEngage : frame.command ≠ Server.engageCommand)
    (engine : EnforcementEngine) (plc : Server) :
    EngageInFlight ⟨engine, plc, state.inFlight.eraseIdx index⟩ ↔
      state.EngageInFlight := by
  constructor
  · intro engaging
    rcases engaging with ⟨other, member, engages⟩
    exact ⟨other, (mem_inFlight_iff isFrame other).mpr (.inr member), engages⟩
  · intro engaging
    rcases engaging with ⟨other, member, engages⟩
    rcases (mem_inFlight_iff isFrame other).mp member with isDelivered | stays
    · rw [isDelivered] at engages
      exact absurd engages notEngage
    · exact ⟨other, stays, engages⟩

theorem agreed_deliver_iff {state : LockState} (agreed : state.Agreed)
    {index : Nat} {frame : Frame} (isFrame : state.inFlight[index]? = some frame) :
    (state.step (.deliver index : LockEvent Double)).1.Agreed ↔
      ¬(frame.command = Server.releaseCommand ∧ state.engine.locked = true ∧
        ¬state.EngageInFlight) := by
  rw [step_deliver_some isFrame]
  unfold Agreed
  simp only [Server.writeLocked_respond]
  by_cases engages : frame.command = Server.engageCommand
  · have notRelease : frame.command ≠ Server.releaseCommand := by
      rw [engages]
      decide
    rw [engages] at notRelease ⊢
    simp [notRelease]
  · rw [engageInFlight_eraseIdx_iff isFrame engages, if_neg engages]
    by_cases releases : frame.command = Server.releaseCommand
    · simp [releases]
    · rw [if_neg releases]
      exact iff_of_true agreed fun releasing => releases releasing.1

theorem agreed_step_iff {state : LockState} (event : LockEvent Double)
    (agreed : state.Agreed) :
    (state.step event).1.Agreed ↔ ¬state.ReleasesHeldLock event := by
  cases event with
  | decide decision answers =>
      apply iff_of_true (agreed_decide agreed decision answers)
      intro releases
      rcases releases with ⟨frame, delivers, _⟩
      exact delivers
  | send bytes =>
      apply iff_of_true
      · intro locked
        exact (agreed locked).imp id
          fun engaging => engageInFlight_append engaging _ _ _
      · intro releases
        rcases releases with ⟨frame, delivers, _⟩
        exact delivers
  | deliver index =>
      cases isFrame : state.inFlight[index]? with
      | none =>
          rw [step_deliver_none isFrame]
          apply iff_of_true agreed
          intro releases
          rcases releases with ⟨frame, delivers, _⟩
          cases isFrame.symm.trans delivers
      | some frame =>
          rw [agreed_deliver_iff agreed isFrame]
          apply not_congr
          constructor
          · intro releases
            exact ⟨frame, isFrame, releases⟩
          · intro releases
            rcases releases with ⟨delivered, delivers, release⟩
            cases isFrame.symm.trans delivers
            exact release

/-! ## What the operator is told -/

/-- Whenever a High decision that restricts writes is reported as held, the PLC
is locked or an engage frame is on its way to it. -/
def ReportsHonestly (Double : Type) (state : LockState) : Prop :=
  ∀ (decision : RiskDecision Double) (answers : SocketAnswers),
    decision.level = .High → decision.restrictWrites = true →
    EnforcementEngine.ReportsHeld (state.engine.apply decision answers).report →
    (state.step (.decide decision answers)).1.plc.writeLocked = true ∨
      (state.step (.decide decision answers)).1.EngageInFlight

theorem reportsHonestly_iff_agreed [Inhabited Double] (state : LockState) :
    ReportsHonestly Double state ↔ state.Agreed := by
  constructor
  · intro honest locked
    let decision : RiskDecision Double := ⟨.High, true, true, default⟩
    have active : state.engine.apply decision .reachable = _ :=
      EnforcementEngine.apply_of_locked rfl rfl locked .reachable
    have held := honest decision .reachable rfl rfl (by rw [active]; exact .inr rfl)
    simpa [step, active, framesOf] using held
  · intro agreed decision answers isHigh restricts held
    apply agreed_decide agreed decision answers
    rcases state.engine.apply_cases decision answers with
      ⟨_, unchanged, isLocked⟩ | ⟨_, _, engaged⟩ | ⟨_, _, failed⟩
    · simpa [step, unchanged] using isLocked held
    · simp [step, engaged]
    · rw [failed] at held
      simp [EnforcementEngine.ReportsHeld, EnforcementEngine.failedReport,
        EnforcementEngine.engagedReport, EnforcementEngine.activeReport] at held

/-- Over a whole interleaving the reports are honest exactly when no step of it
releases the lock of a PLC that the engine takes for locked. -/
theorem reports_honestly_iff_no_held_lock_released [Inhabited Double]
    (events : List (LockEvent Double)) :
    (machine Double).Always (ReportsHonestly Double) {} events ↔
      (machine Double).Along (fun state event => ¬state.ReleasesHeldLock event)
        {} events := by
  have sameProperty : ReportsHonestly Double = Agreed := by
    funext state
    exact propext (reportsHonestly_iff_agreed state)
  rw [sameProperty]
  apply Machine.always_iff_along
  · intro state event agreed
    exact agreed_step_iff event agreed
  · intro locked
    cases locked

/-- The interleaving of the test runner: an attack, and the reset of the coil. -/
def attackThenReset : List (LockEvent Float) :=
  [.decide ⟨.High, true, true, 1.0⟩ .reachable,
   .deliver 0,
   .send (Client.requestFrame 5 65535 0),
   .deliver 0]

theorem finalState_attackThenReset :
    (machine Float).finalState {} attackThenReset = ⟨⟨true⟩, ⟨false⟩, []⟩ := by
  decide

/-- After the reset the next attack is reported as held off by a PLC that takes
every write. -/
theorem attack_after_reset_reported_held :
    ¬∀ events : List (LockEvent Float),
      (machine Float).Always (ReportsHonestly Float) {} events := by
  intro everywhere
  have honest := everywhere attackThenReset attackThenReset List.prefix_rfl
  rw [reportsHonestly_iff_agreed, finalState_attackThenReset] at honest
  simp [Agreed, EngageInFlight] at honest

end LockState

end Prism.System

import Prism.Types

/-! # The enforcement engine

`EnforcementEngine::apply` and `sendSafetyCoil`. What the operating system
answers to the socket calls is an input; what reaches the wire is an output.
-/

namespace Prism.Enforcement

/-! ## The safety coil -/

/-- The answers to `socket`, `connect` and `write`. A `write` never reports more
bytes than it was given. -/
structure SocketAnswers where
  socket : Int
  connect : Int
  write : Int
  write_le : write ≤ 12

def SocketAnswers.reachable : SocketAnswers where
  socket := 3
  connect := 0
  write := 12
  write_le := Int.le_refl 12

/-- The frame of a Modbus FC5, Write Single Coil, to coil 0xFFFF. -/
def safetyCoilFrame (value : UInt16) : List UInt8 :=
  [0x00, 0x01,                  -- TX id
   0x00, 0x00,                  -- protocol id
   0x00, 0x06,                  -- length
   0x01,                        -- unit id
   0x05,                        -- FC5 Write Single Coil
   0xFF, 0xFF,                  -- coil address 0xFFFF
   (value >>> 8).toUInt8,       -- value high
   (value &&& 0xFF).toUInt8]    -- value low

/-- One call of `sendSafetyCoil`: its result, and the bytes that left the
machine, which on a short write are only the first of the frame. -/
structure Send where
  sent : Bool
  wire : List UInt8
  deriving DecidableEq, Repr

def sendSafetyCoil (answers : SocketAnswers) (value : UInt16) : Send :=
  if answers.socket < 0 then
    ⟨false, []⟩
  else if answers.connect < 0 then
    ⟨false, []⟩
  else
    let pdu := safetyCoilFrame value
    ⟨answers.write == 12, pdu.take answers.write.toNat⟩

@[simp] theorem sendSafetyCoil_reachable (value : UInt16) :
    sendSafetyCoil .reachable value = ⟨true, safetyCoilFrame value⟩ := by
  simp [sendSafetyCoil, SocketAnswers.reachable, safetyCoilFrame]

/-! ## The engine -/

structure EnforcementEngine where
  locked : Bool := false
  deriving DecidableEq, Repr

/-- What a call of `apply` leaves behind: the string it returns, the engine, and
the calls of `sendSafetyCoil` it made. -/
structure Applied where
  report : String
  engine : EnforcementEngine
  sends : List Send
  deriving DecidableEq, Repr

namespace EnforcementEngine

def engagedReport : String := "Write-lock ENGAGED (coil 0xFFFF)"

def failedReport : String := "Write-lock FAILED (could not reach PLC)"

def activeReport : String := "Write-lock active (already engaged)"

def apply (engine : EnforcementEngine) (decision : RiskDecision Double)
    (answers : SocketAnswers) : Applied :=
  match decision.level with
  | .Low => ⟨"Monitoring only", engine, []⟩
  | .Medium => ⟨"Alert operators", engine, []⟩
  | .High =>
      if decision.restrictWrites then
        if !engine.locked then
          let send := sendSafetyCoil answers 0xFF00
          if send.sent then
            ⟨engagedReport, { engine with locked := true }, [send]⟩
          else
            ⟨failedReport, engine, [send]⟩
        else
          ⟨activeReport, engine, []⟩
      else
        ⟨"Escalation without restriction", engine, []⟩

/-- The two reports that tell the operator the lock is held. -/
def ReportsHeld (report : String) : Prop :=
  report = engagedReport ∨ report = activeReport

/-! ## What one call can do -/

section Cases

variable {engine : EnforcementEngine} {decision : RiskDecision Double}

theorem apply_of_locked (isHigh : decision.level = .High)
    (restricts : decision.restrictWrites = true) (locked : engine.locked = true)
    (answers : SocketAnswers) :
    engine.apply decision answers = ⟨activeReport, engine, []⟩ := by
  simp [apply, isHigh, restricts, locked]

theorem apply_of_unlocked (isHigh : decision.level = .High)
    (restricts : decision.restrictWrites = true) (unlocked : engine.locked = false)
    (answers : SocketAnswers) :
    engine.apply decision answers =
      if (sendSafetyCoil answers 0xFF00).sent then
        ⟨engagedReport, { locked := true }, [sendSafetyCoil answers 0xFF00]⟩
      else
        ⟨failedReport, engine, [sendSafetyCoil answers 0xFF00]⟩ := by
  simp [apply, isHigh, restricts, unlocked]

theorem apply_reachable_of_unlocked (isHigh : decision.level = .High)
    (restricts : decision.restrictWrites = true) (unlocked : engine.locked = false) :
    engine.apply decision .reachable =
      ⟨engagedReport, { locked := true }, [⟨true, safetyCoilFrame 0xFF00⟩]⟩ := by
  simp [apply_of_unlocked isHigh restricts unlocked]

theorem apply_of_not_restricting
    (notRestricting : ¬(decision.level = .High ∧ decision.restrictWrites = true))
    (answers : SocketAnswers) :
    (engine.apply decision answers).sends = [] ∧
      (engine.apply decision answers).engine = engine ∧
      ¬ReportsHeld (engine.apply decision answers).report := by
  rcases decision with ⟨level, escalate, restrictWrites, probability⟩
  cases level with
  | Low => simp [apply, ReportsHeld, engagedReport, activeReport]
  | Medium => simp [apply, ReportsHeld, engagedReport, activeReport]
  | High =>
      cases restrictWrites with
      | true => exact absurd ⟨rfl, rfl⟩ notRestricting
      | false => simp [apply, ReportsHeld, engagedReport, activeReport]

/-- Everything a call can do: change nothing, engage the lock with a send that
succeeded, or fail to. -/
theorem apply_cases (engine : EnforcementEngine) (decision : RiskDecision Double)
    (answers : SocketAnswers) :
    let applied := engine.apply decision answers
    let send := sendSafetyCoil answers 0xFF00
    (applied.sends = [] ∧ applied.engine = engine ∧
        (ReportsHeld applied.report → engine.locked = true)) ∨
      (engine.locked = false ∧ send.sent = true ∧
        applied = ⟨engagedReport, { locked := true }, [send]⟩) ∨
      (engine.locked = false ∧ send.sent = false ∧
        applied = ⟨failedReport, engine, [send]⟩) := by
  intro applied send
  by_cases restricting : decision.level = .High ∧ decision.restrictWrites = true
  · rcases restricting with ⟨isHigh, restricts⟩
    cases locked : engine.locked with
    | true =>
        left
        have unchanged : applied = _ := apply_of_locked isHigh restricts locked answers
        rw [unchanged]
        exact ⟨rfl, rfl, fun _ => rfl⟩
    | false =>
        right
        have outcome : applied = _ := apply_of_unlocked isHigh restricts locked answers
        cases sent : send.sent with
        | true => exact .inl ⟨rfl, rfl, outcome.trans (if_pos sent)⟩
        | false =>
            exact .inr ⟨rfl, rfl,
              outcome.trans (if_neg (Bool.eq_false_iff.mp sent))⟩
  · left
    rcases apply_of_not_restricting restricting answers with
      ⟨noSends, unchanged, notHeld⟩
    exact ⟨noSends, unchanged, fun held => absurd held notHeld⟩

theorem apply_eq_of_locked (locked : engine.locked = true)
    (decision : RiskDecision Double) (answers : SocketAnswers) :
    (engine.apply decision answers).sends = [] ∧
      (engine.apply decision answers).engine = engine := by
  rcases engine.apply_cases decision answers with
    ⟨noSends, unchanged, _⟩ | ⟨unlocked, _⟩ | ⟨unlocked, _⟩
  · exact ⟨noSends, unchanged⟩
  · cases locked.symm.trans unlocked
  · cases locked.symm.trans unlocked

end Cases

end EnforcementEngine

/-! ## What reaches the wire -/

theorem wire_of_sent {answers : SocketAnswers} {value : UInt16}
    (sent : (sendSafetyCoil answers value).sent = true) :
    (sendSafetyCoil answers value).wire = safetyCoilFrame value := by
  unfold sendSafetyCoil at sent ⊢
  split
  · simp_all
  · split
    · simp_all
    · have whole : answers.write = 12 := by simp_all
      simp [whole, safetyCoilFrame]

theorem length_wire_of_not_sent {answers : SocketAnswers} {value : UInt16}
    (notSent : (sendSafetyCoil answers value).sent = false) :
    (sendSafetyCoil answers value).wire.length < 12 := by
  unfold sendSafetyCoil at notSent ⊢
  split
  · simp
  · split
    · simp
    · have short : answers.write ≠ 12 := by simp_all
      have atMost := answers.write_le
      simp only [List.length_take]
      omega

end Prism.Enforcement

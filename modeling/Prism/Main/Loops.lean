import Prism.Capture.Pcap
import Prism.Main.Pipeline

/-! # The main loops

The poll-driven loop with its inner drain loop, and the fallback loop, both with
the variables they reuse from one iteration to the next.
-/

namespace Prism.Main

open Prism.Parser Prism.Windowing

/-! ## What the capture delivers -/

/-- The outcome of a call of `nextPacket`. One that fails may leave anything in
the caller's packet. -/
inductive CaptureOutcome
  | captured (packet : RawPacket)
  | failed (leftover : RawPacket)
  deriving DecidableEq, Repr

/-- The record `main` makes of a packet, unless it drops it. -/
def keptRecord (packet : RawPacket) : Option ParsedRecord :=
  (parseAs (classifyProtocol packet) packet).filter fun record => !isDropped record

/-- The outcome of a call, with what the caller's packet held before it. -/
def CaptureOutcome.ofCall (capture : Capture.PcapCapture) (now : Timestamp)
    (answer : Capture.NextEx) (packet : RawPacket) : CaptureOutcome :=
  match (capture.nextPacket now answer packet).value with
  | (true, packet) => .captured packet
  | (false, leftover) => .failed leftover

def CaptureOutcome.kept : CaptureOutcome → Option ParsedRecord
  | .captured packet => keptRecord packet
  | .failed _ => none

/-- Whether a call captures a packet that is kept, and which record is made of it,
does not depend on what the caller's packet held before. -/
theorem kept_ofCall_congr (capture : Capture.PcapCapture) (now : Timestamp)
    (answer : Capture.NextEx) (first second : RawPacket) :
    (CaptureOutcome.ofCall capture now answer first).kept =
      (CaptureOutcome.ofCall capture now answer second).kept := by
  rcases capture.value_nextPacket_congr now answer first second with
    ⟨sameResult, samePacket⟩
  unfold CaptureOutcome.ofCall
  cases result : (capture.nextPacket now answer second).value with
  | mk captured packet =>
      rw [result] at sameResult samePacket
      cases other : (capture.nextPacket now answer first).value with
      | mk firstCaptured firstPacket =>
          rw [other] at sameResult samePacket
          cases sameResult
          cases captured with
          | false => rfl
          | true =>
              cases samePacket rfl
              rfl

/-! ## The loops -/

structure Variables extends Components where
  packet : RawPacket := {}
  record : ParsedRecord := {}
  window : Window := {}
  deriving DecidableEq, Repr

structure Iteration (Double : Type) where
  vars : Variables
  evaluation : Option (Evaluation Double)
  drained : Nat

section Loops

variable (Double : Type) [DoubleArithmetic Double] (environment : Environment)

def drainBody (vars : Variables) (drained : Nat) : Iteration Double :=
  let proto := classifyProtocol vars.packet
  if proto = .unknown then
    ⟨vars, none, drained + 1⟩
  else
    let vars := { vars with record := {} }
    match parseAs proto vars.packet with
    | none => ⟨vars, none, drained⟩
    | some record =>
        let vars := { vars with record := record }
        if isDropped vars.record then
          ⟨vars, none, drained⟩
        else
          let result := vars.windowManager.addRecord vars.record vars.window
          let vars := { vars with
            windowManager := result.manager
            window := result.outWindow }
          if !result.emitted then
            ⟨vars, none, drained + 1⟩
          else if vars.window.records.isEmpty then
            ⟨vars, none, drained⟩
          else
            let assessed := vars.assess environment vars.record vars.window
            ⟨{ vars with toComponents := assessed.1 }, some assessed.2, drained + 1⟩

def maxDrain : Nat := 1024

/-- What a run of the drain loop leaves behind, with the outcomes it has not
asked for. -/
structure Pass where
  vars : Variables
  evaluations : List (Evaluation Double)
  rest : List CaptureOutcome

def drain (vars : Variables) (drained : Nat) : List CaptureOutcome → Pass Double
  | [] => ⟨vars, [], []⟩
  | outcome :: rest =>
      if drained < maxDrain then
        match outcome with
        | .failed leftover => ⟨{ vars with packet := leftover }, [], rest⟩
        | .captured packet =>
            let vars := { vars with packet := packet }
            let iteration := drainBody Double environment vars drained
            let pass := drain iteration.vars iteration.drained rest
            { pass with evaluations := iteration.evaluation.toList ++ pass.evaluations }
      else
        ⟨vars, [], outcome :: rest⟩

def fallbackBody (vars : Variables) : Variables × Option (Evaluation Double) :=
  let proto := classifyProtocol vars.packet
  if proto = .unknown then
    (vars, none)
  else
    let vars := { vars with record := {} }
    match parseAs proto vars.packet with
    | none => (vars, none)
    | some record =>
        let vars := { vars with record := record }
        if isDropped vars.record then
          (vars, none)
        else
          let result := vars.windowManager.addRecord vars.record vars.window
          let vars := { vars with
            windowManager := result.manager
            window := result.outWindow }
          if !result.emitted then
            (vars, none)
          else if vars.window.records.isEmpty then
            (vars, none)
          else
            let assessed := vars.assess environment vars.record vars.window
            ({ vars with toComponents := assessed.1 }, some assessed.2)

/-- The fallback loop, as long as it runs and the capture delivers outcomes. -/
def fallbackLoop (vars : Variables) : List CaptureOutcome → List (Evaluation Double)
  | [] => []
  | .failed leftover :: rest => fallbackLoop { vars with packet := leftover } rest
  | .captured packet :: rest =>
      let next := fallbackBody Double environment { vars with packet := packet }
      next.2.toList ++ fallbackLoop next.1 rest

theorem length_rest_drain_le (vars : Variables) (drained : Nat)
    (stream : List CaptureOutcome) :
    (drain Double environment vars drained stream).rest.length ≤ stream.length := by
  induction stream generalizing vars drained with
  | nil => exact Nat.le_refl _
  | cons outcome rest induction =>
      by_cases below : drained < maxDrain
      · cases outcome with
        | failed leftover => simp [drain, below]
        | captured packet =>
            simp only [drain, below, if_true, List.length_cons]
            exact Nat.le_succ_of_le (induction _ _)
      · simp [drain, below]

theorem length_rest_drain_lt (vars : Variables) (outcome : CaptureOutcome)
    (rest : List CaptureOutcome) :
    (drain Double environment vars 0 (outcome :: rest)).rest.length <
      (outcome :: rest).length := by
  cases outcome with
  | failed leftover => simp [drain, maxDrain]
  | captured packet =>
      have notMore := length_rest_drain_le Double environment
        (drainBody Double environment { vars with packet := packet } 0).vars
        (drainBody Double environment { vars with packet := packet } 0).drained rest
      exact Nat.lt_succ_of_le notMore

/-- The poll-driven loop, as long as it runs, `poll` reports the capture readable
and the capture delivers outcomes. -/
def pollLoop (vars : Variables) (stream : List CaptureOutcome) :
    List (Evaluation Double) :=
  match stream with
  | [] => []
  | outcome :: rest =>
      let pass := drain Double environment vars 0 (outcome :: rest)
      pass.evaluations ++ pollLoop pass.vars pass.rest
termination_by stream.length
decreasing_by exact length_rest_drain_lt Double environment vars outcome rest

end Loops

/-! ## The two bodies -/

variable {Double : Type} [DoubleArithmetic Double] (environment : Environment)

/-- The bodies of the two loops do the same, apart from the counter. -/
theorem drainBody_eq_fallbackBody (vars : Variables) (drained : Nat) :
    ((drainBody Double environment vars drained).vars,
      (drainBody Double environment vars drained).evaluation) =
        fallbackBody Double environment vars := by
  unfold drainBody fallbackBody
  by_cases isUnknown : classifyProtocol vars.packet = .unknown
  · simp only [if_pos isUnknown]
  · simp only [if_neg isUnknown]
    cases parsed : parseAs (classifyProtocol vars.packet) vars.packet with
    | none => rfl
    | some record =>
        cases dropped : isDropped record with
        | true => simp only [dropped, if_true]
        | false =>
            simp only [dropped, Bool.false_eq_true, if_false]
            split
            · rfl
            · split <;> rfl

/-! ## The two loops -/

/-- Wherever the drain loop stops, the fallback loop may take over. -/
theorem drain_append_fallbackLoop (vars : Variables) (drained : Nat)
    (stream : List CaptureOutcome) :
    let pass := drain Double environment vars drained stream
    pass.evaluations ++ fallbackLoop Double environment pass.vars pass.rest =
      fallbackLoop Double environment vars stream := by
  induction stream generalizing vars drained with
  | nil => rfl
  | cons outcome rest induction =>
      by_cases below : drained < maxDrain
      · cases outcome with
        | failed leftover => simp [drain, below, fallbackLoop]
        | captured packet =>
            have sameBody : _ = fallbackBody Double environment _ :=
              drainBody_eq_fallbackBody environment { vars with packet := packet }
                drained
            simp only [drain, below, if_true, fallbackLoop, ← sameBody,
              List.append_assoc]
            exact congrArg _ (induction _ _)
      · simp [drain, below]

theorem pollLoop_eq_fallbackLoop (vars : Variables) (stream : List CaptureOutcome) :
    pollLoop Double environment vars stream =
      fallbackLoop Double environment vars stream := by
  fun_induction pollLoop Double environment vars stream with
  | case1 vars => rfl
  | case2 vars outcome rest pass induction =>
      rw [induction]
      exact drain_append_fallbackLoop environment vars 0 (outcome :: rest)

/-! ## The fallback loop runs the pipeline -/

theorem fallbackBody_of_dropped {vars : Variables}
    (dropped : keptRecord vars.packet = none) :
    (fallbackBody Double environment vars).1.toComponents = vars.toComponents ∧
      (fallbackBody Double environment vars).2 = none := by
  unfold fallbackBody
  by_cases isUnknown : classifyProtocol vars.packet = .unknown
  · simp [isUnknown]
  · simp only [if_neg isUnknown]
    cases parsed : parseAs (classifyProtocol vars.packet) vars.packet with
    | none => exact ⟨rfl, rfl⟩
    | some record =>
        have isDropped : isDropped record = true := by
          simpa [keptRecord, parsed] using dropped
        simp [isDropped]

theorem fallbackBody_of_kept {vars : Variables} {record : ParsedRecord}
    (kept : keptRecord vars.packet = some record) :
    let next := (pipeline Double environment).step vars.toComponents record
    (fallbackBody Double environment vars).1.toComponents = next.1 ∧
      (fallbackBody Double environment vars).2 = next.2 := by
  unfold fallbackBody
  by_cases isUnknown : classifyProtocol vars.packet = .unknown
  · simp [keptRecord, isUnknown, parseAs] at kept
  · simp only [if_neg isUnknown]
    rcases Option.filter_eq_some_iff.mp kept with ⟨parsed, notDropped⟩
    have isKept : isDropped record = false := by simpa using notDropped
    rcases vars.windowManager.addRecord_congr_outWindow record vars.window {} with
      ⟨sameResult, sameManager, sameWindow⟩
    simp only [parsed, isKept, Bool.false_eq_true, if_false, sameResult,
      sameManager, pipeline]
    cases emitted : (vars.windowManager.addRecord record {}).emitted with
    | false => simp
    | true =>
        rw [sameWindow emitted]
        let filled := (vars.windowManager.addRecord record {}).outWindow
        cases empty : filled.records.isEmpty with
        | true => simp
        | false => simp

def fallbackMachine (Double : Type) [DoubleArithmetic Double]
    (environment : Environment) :
    Machine Variables CaptureOutcome (Option (Evaluation Double)) where
  step vars
    | .captured packet => fallbackBody Double environment { vars with packet := packet }
    | .failed leftover => ({ vars with packet := leftover }, none)

theorem fallbackLoop_eq_outputs (vars : Variables) (stream : List CaptureOutcome) :
    fallbackLoop Double environment vars stream =
      ((fallbackMachine Double environment).outputs vars stream).reduceOption := by
  induction stream generalizing vars with
  | nil => rfl
  | cons outcome rest induction =>
      rw [Machine.outputs_cons, Machine.reduceOption_cons, ← induction]
      cases outcome with
      | failed leftover => rfl
      | captured packet => rfl

theorem fallbackMachine_step (vars : Variables) (outcome : CaptureOutcome) :
    let next := (fallbackMachine Double environment).step vars outcome
    let expected :=
      (pipeline Double environment).passing.step vars.toComponents outcome.kept
    next.1.toComponents = expected.1 ∧ next.2 = expected.2 := by
  cases outcome with
  | failed leftover => exact ⟨rfl, rfl⟩
  | captured packet =>
      cases kept : keptRecord packet with
      | none =>
          simp only [CaptureOutcome.kept, kept]
          exact fallbackBody_of_dropped environment kept
      | some record =>
          simp only [CaptureOutcome.kept, kept]
          exact fallbackBody_of_kept environment kept

def followsPipeline (Double : Type) [DoubleArithmetic Double]
    (environment : Environment) :
    Machine.Simulation (fallbackMachine Double environment)
      (pipeline Double environment).passing CaptureOutcome.kept id where
  Related vars components := vars.toComponents = components
  next := by
    intro vars components related outcome
    rw [← related]
    exact (fallbackMachine_step environment vars outcome).1
  output := by
    intro vars components related outcome
    rw [← related]
    exact (fallbackMachine_step environment vars outcome).2

theorem fallbackLoop_eq_pipeline (vars : Variables) (stream : List CaptureOutcome) :
    fallbackLoop Double environment vars stream =
      ((pipeline Double environment).outputs vars.toComponents
        (stream.filterMap CaptureOutcome.kept)).reduceOption := by
  have sameOutputs := (followsPipeline Double environment).outputs
    (rfl : vars.toComponents = vars.toComponents) stream
  have onlyKept : (stream.map CaptureOutcome.kept).reduceOption =
      stream.filterMap CaptureOutcome.kept := List.filterMap_map
  rw [fallbackLoop_eq_outputs, ← List.map_id (Machine.outputs _ vars stream),
    sameOutputs, Machine.outputs_passing, onlyKept]

/-! ## The loops compute the same thing -/

theorem filterMap_kept_filter (stream : List CaptureOutcome) :
    (stream.filter fun outcome => outcome.kept.isSome).filterMap CaptureOutcome.kept =
      stream.filterMap CaptureOutcome.kept := by
  rw [List.filterMap_filter]
  congr 1
  funext outcome
  cases kept : outcome.kept with
  | none => rfl
  | some record => rfl

/-- The loops of `main` evaluate the same windows, with the same decisions and
actions: those of the pipeline on the packets that are kept. Packets that are
dropped and captures that fail have no influence, wherever they stand. -/
theorem loops_compute_pipeline (stream other : List CaptureOutcome) :
    let keeps := fun outcome : CaptureOutcome => outcome.kept.isSome
    pollLoop Double environment {} stream = fallbackLoop Double environment {} stream ∧
      fallbackLoop Double environment {} stream =
        ((pipeline Double environment).outputs {}
          (stream.filterMap CaptureOutcome.kept)).reduceOption ∧
      fallbackLoop Double environment {} stream =
        fallbackLoop Double environment {} (stream.filter keeps) ∧
      (stream.filter keeps = other.filter keeps →
        pollLoop Double environment {} stream = pollLoop Double environment {} other ∧
          fallbackLoop Double environment {} stream =
            fallbackLoop Double environment {} other) := by
  intro keeps
  have onlyKept : ∀ outcomes : List CaptureOutcome,
      fallbackLoop Double environment {} outcomes =
        fallbackLoop Double environment {} (outcomes.filter keeps) := by
    intro outcomes
    rw [fallbackLoop_eq_pipeline, fallbackLoop_eq_pipeline, filterMap_kept_filter]
  refine ⟨pollLoop_eq_fallbackLoop environment {} stream,
    fallbackLoop_eq_pipeline environment {} stream, onlyKept stream, ?_⟩
  intro sameKept
  have same : fallbackLoop Double environment {} stream =
      fallbackLoop Double environment {} other := by
    rw [onlyKept stream, sameKept, ← onlyKept other]
  exact ⟨by rw [pollLoop_eq_fallbackLoop, pollLoop_eq_fallbackLoop, same], same⟩

/-- A failed capture and a packet of no known protocol, before a Modbus write. -/
theorem loops_compute_pipeline_of_one_write :
    let environment : Environment := ⟨.byInsertion, fun _ => .reachable⟩
    let write : RawPacket :=
      { payload := [0, 1, 0, 0, 0, 6, 1, 6, 0, 16, 0, 1]
        srcPort := 40000
        dstPort := 502 }
    pollLoop Float environment {} [.failed {}, .captured {}, .captured write] =
      pollLoop Float environment {} [.captured write] := by
  intro environment write
  exact ((loops_compute_pipeline environment [.failed {}, .captured {}, .captured write]
    [.captured write]).2.2.2 (by decide)).1

end Prism.Main

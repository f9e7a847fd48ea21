import Prism.Foundation.Budget
import Prism.Main.Loops

/-! # The bound of the drain loop

The drain loop is meant to go back to `poll` after `max_drain` packets, but it does
not count every packet it takes.
-/

namespace Prism.Main

open Prism.Parser Prism.Windowing

/-! ## Packets that are not counted -/

/-- The packet leaves the counter as it is: its protocol is known and its record is
dropped, or the window it triggers is empty. -/
inductive LeavesCounter (components : Components) (packet : RawPacket) : Prop
  | dropped (known : classifyProtocol packet ≠ .unknown)
      (notKept : keptRecord packet = none)
  | emptyWindow (record : ParsedRecord) (kept : keptRecord packet = some record)
      (emitted : (components.windowManager.addRecord record {}).emitted = true)
      (empty : (components.windowManager.addRecord record {}).outWindow.records = [])

theorem leavesCounter_iff_of_kept {components : Components} {packet : RawPacket}
    {record : ParsedRecord} (kept : keptRecord packet = some record) :
    LeavesCounter components packet ↔
      (components.windowManager.addRecord record {}).emitted = true ∧
        (components.windowManager.addRecord record {}).outWindow.records = [] := by
  constructor
  · intro leaves
    cases leaves with
    | dropped _ notKept => cases kept.symm.trans notKept
    | emptyWindow other otherKept emitted empty =>
        cases kept.symm.trans otherKept
        exact ⟨emitted, empty⟩
  · intro both
    exact .emptyWindow record kept both.1 both.2

variable (Double : Type) [DoubleArithmetic Double] (environment : Environment)

theorem drainBody_drained (vars : Variables) (drained : Nat) :
    (LeavesCounter vars.toComponents vars.packet ∧
        (drainBody Double environment vars drained).drained = drained) ∨
      (¬LeavesCounter vars.toComponents vars.packet ∧
        (drainBody Double environment vars drained).drained = drained + 1) := by
  unfold drainBody
  by_cases isUnknown : classifyProtocol vars.packet = .unknown
  · right
    refine ⟨?_, by simp only [if_pos isUnknown]⟩
    intro leaves
    cases leaves with
    | dropped known _ => exact known isUnknown
    | emptyWindow record kept _ _ => simp [keptRecord, isUnknown, parseAs] at kept
  · simp only [if_neg isUnknown]
    cases parsed : parseAs (classifyProtocol vars.packet) vars.packet with
    | none => exact .inl ⟨.dropped isUnknown (by simp [keptRecord, parsed]), rfl⟩
    | some record =>
        cases dropped : isDropped record with
        | true =>
            have notKept : keptRecord vars.packet = none := by
              simp [keptRecord, parsed, dropped]
            simp only [dropped, if_true, and_true]
            exact .inl (.dropped isUnknown notKept)
        | false =>
            have kept : keptRecord vars.packet = some record := by
              simp [keptRecord, parsed, dropped]
            rcases vars.windowManager.addRecord_congr_outWindow record vars.window {}
              with ⟨sameResult, _, sameWindow⟩
            rw [leavesCounter_iff_of_kept kept]
            simp only [dropped, Bool.false_eq_true, if_false, sameResult]
            cases emitted : (vars.windowManager.addRecord record {}).emitted with
            | false => simp
            | true =>
                rw [sameWindow emitted]
                cases empty :
                    (vars.windowManager.addRecord record {}).outWindow.records with
                | nil => simp
                | cons first rest => simp

/-! ## One pass -/

def packetsOf : List CaptureOutcome → List RawPacket
  | .captured packet :: rest => packet :: packetsOf rest
  | _ => []

def asked (vars : Variables) (drained : Nat) (stream : List CaptureOutcome) :
    List CaptureOutcome :=
  stream.take
    (stream.length - (drain Double environment vars drained stream).rest.length)

/-- How many packets a pass of the drain loop takes from `nextPacket`. -/
def packetsTaken (vars : Variables) (stream : List CaptureOutcome) : Nat :=
  (packetsOf (asked Double environment vars 0 stream)).length

/-- The body of the drain loop as a machine over packets that tells whether a packet
is counted. -/
def drainMachine : Machine Variables RawPacket Bool where
  step vars packet :=
    let iteration := drainBody Double environment { vars with packet := packet } 0
    (iteration.vars, iteration.drained == 1)

theorem drainMachine_counts_iff (vars : Variables) (packet : RawPacket) :
    ((drainMachine Double environment).step vars packet).2 = true ↔
      ¬LeavesCounter vars.toComponents packet := by
  change (_ == 1) = true ↔ _
  rcases drainBody_drained Double environment { vars with packet := packet } 0 with
    ⟨leaves, same⟩ | ⟨counts, next⟩
  · rw [same]
    exact iff_of_false (by decide) (not_not.mpr leaves)
  · rw [next]
    exact iff_of_true rfl counts

theorem drainBody_vars (vars : Variables) (drained : Nat) :
    (drainBody Double environment vars drained).vars =
      (drainBody Double environment vars 0).vars := by
  have bodies : ∀ drained, (drainBody Double environment vars drained).vars =
      (fallbackBody Double environment vars).1 := by
    intro drained
    rw [← drainBody_eq_fallbackBody environment vars drained]
  rw [bodies drained, bodies 0]

theorem asked_captured {vars : Variables} {drained : Nat} (below : drained < maxDrain)
    (packet : RawPacket) (rest : List CaptureOutcome) :
    let iteration :=
      drainBody Double environment { vars with packet := packet } drained
    asked Double environment vars drained (.captured packet :: rest) =
      .captured packet ::
        asked Double environment iteration.vars iteration.drained rest := by
  intro iteration
  have notMore := length_rest_drain_le Double environment iteration.vars
    iteration.drained rest
  have remaining :
      (drain Double environment vars drained (.captured packet :: rest)).rest =
        (drain Double environment iteration.vars iteration.drained rest).rest := by
    simp [drain, below, iteration]
  rw [asked, remaining, List.length_cons, Nat.succ_sub notMore, List.take_succ_cons]
  rfl

theorem remaining_budget {vars : Variables} {drained budget : Nat}
    (isBudget : maxDrain - drained = budget + 1) (packet : RawPacket) :
    maxDrain -
        (drainBody Double environment { vars with packet := packet } drained).drained =
      if ((drainMachine Double environment).step vars packet).2 then budget
      else budget + 1 := by
  have countsIff := drainMachine_counts_iff Double environment vars packet
  rcases drainBody_drained Double environment { vars with packet := packet } drained with
    ⟨leaves, same⟩ | ⟨counts, next⟩
  · rw [if_neg fun counts => countsIff.mp counts leaves, same, isBudget]
  · rw [if_pos (countsIff.mpr counts), next]
    omega

/-- What the loop takes is what a loop with a budget takes of the packets before
the first failure. -/
theorem length_packetsOf_asked (vars : Variables) (drained : Nat)
    (stream : List CaptureOutcome) :
    (packetsOf (asked Double environment vars drained stream)).length =
      (drainMachine Double environment).taken (maxDrain - drained) vars
        (packetsOf stream) := by
  induction stream generalizing vars drained with
  | nil => simp [asked, packetsOf, Machine.taken]
  | cons outcome rest induction =>
      by_cases below : drained < maxDrain
      · cases outcome with
        | failed leftover => simp [asked, drain, below, packetsOf, Machine.taken]
        | captured packet =>
            rcases Nat.exists_eq_add_one_of_ne_zero (Nat.sub_ne_zero_of_lt below) with
              ⟨budget, isBudget⟩
            have remaining : maxDrain -
                  (drainBody Double environment { vars with packet := packet }
                    drained).drained =
                if ((drainMachine Double environment).step vars packet).2 then budget
                else budget + 1 :=
              remaining_budget Double environment isBudget packet
            rw [asked_captured Double environment below, packetsOf, packetsOf,
              List.length_cons, induction, drainBody_vars, remaining, isBudget]
            rfl
      · have used : maxDrain - drained = 0 := by omega
        have nothing : asked Double environment vars drained (outcome :: rest) = [] := by
          simp [asked, drain, below]
        rw [used, nothing]
        cases packetsOf (outcome :: rest) <;> rfl

/-- A pass of the drain loop takes no more than 1024 packets if and only if no more
are captured before a call fails, or each of the first 1024 is counted: none of them
is a packet of a known protocol that is dropped or triggers an empty window. -/
theorem drain_bounded_iff (vars : Variables) (stream : List CaptureOutcome) :
    packetsTaken Double environment vars stream ≤ maxDrain ↔
      (packetsOf stream).length ≤ maxDrain ∨
        (drainMachine Double environment).Along
          (fun vars packet => ¬LeavesCounter vars.toComponents packet) vars
          ((packetsOf stream).take maxDrain) := by
  rw [packetsTaken, length_packetsOf_asked, Nat.sub_zero, Machine.taken_le_iff]
  exact or_congr_right
    (Machine.along_congr _ (drainMachine_counts_iff Double environment) _ _)

/-- A Modbus packet without payload, as every acknowledgement is. -/
def bareAcknowledgement : RawPacket where
  srcPort := 40000
  dstPort := 502

/-- A pass that meets one more packet without payload than its bound takes them
all. -/
theorem acknowledgements_not_bounded :
    ¬∀ (environment : Environment) (vars : Variables) (stream : List CaptureOutcome),
      packetsTaken Float environment vars stream ≤ maxDrain := by
  intro everywhere
  let stream := List.replicate 1025 (CaptureOutcome.captured bareAcknowledgement)
  have bounded := everywhere ⟨.byInsertion, fun _ => .reachable⟩ {} stream
  rw [packetsTaken, length_packetsOf_asked, Nat.sub_zero,
    Machine.taken_le_iff] at bounded
  have packets : packetsOf stream = List.replicate 1025 bareAcknowledgement := by
    decide +kernel
  rw [packets, List.length_replicate, List.take_replicate] at bounded
  rcases bounded with short | along
  · exact absurd short (by decide)
  · have counted := along [] bareAcknowledgement
      (List.replicate 1023 bareAcknowledgement) rfl
    exact (drainMachine_counts_iff Float _ _ _).mp counted
      (.dropped (by decide) (by decide))

end Prism.Main

import Prism.Simulator.CommandLine
import Prism.Simulator.ServerRuns

/-! # Commanding the lock

Which command lines of the simulator move the lock of the PLC, and that the handlers of
the HTTP interface run none of them.
-/

namespace Prism.Simulator

/-! ## What reaches the network -/

def Outcome.wire : Outcome → List UInt8
  | .returned _ wire => wire
  | .thrown => []
  | .serving _ _ => []

def Asked.ofCommandLine (argv : List String) : Option Asked :=
  if argv[1]? = some "request" ∧ (stoi (argv.getD 3 "")).isSome then
    Asked.ofArguments argv
  else
    none

theorem wire_runRequest (network : Network) (protocol : Protocol)
    (operands : List String) :
    (runRequest network protocol operands).wire =
      match Asked.ofOperands protocol operands with
      | none => []
      | some asked => (asked.send network).wire := by
  cases operands with
  | nil => cases protocol <;> rfl
  | cons fnText operands =>
      cases isFn : stoi fnText with
      | none =>
          cases protocol with
          | modbus =>
              rcases operands with _ | ⟨addrText, _ | ⟨valText, operands⟩⟩ <;>
                simp [runRequest, Asked.ofOperands, isFn, Outcome.wire]
          | _ => simp [runRequest, Asked.ofOperands, isFn, Outcome.wire]
      | some fn =>
          cases protocol with
          | modbus =>
              rcases operands with _ | ⟨addrText, _ | ⟨valText, operands⟩⟩
              · simp [runRequest, Asked.ofOperands, isFn, usage, Outcome.wire]
              · simp [runRequest, Asked.ofOperands, isFn, usage, Outcome.wire]
              · cases isAddr : stoi addrText <;> cases isVal : stoi valText <;>
                  simp [runRequest, Asked.ofOperands, isFn, isAddr, isVal, Asked.send,
                    Outcome.wire]
          | dnp3 => simp [runRequest, Asked.ofOperands, isFn, Asked.send]
          | iec104 => simp [runRequest, Asked.ofOperands, isFn, Asked.send]
          | unknown => simp [runRequest, Asked.ofOperands, isFn, usage, Outcome.wire]

theorem parseMode_eq_request_iff (text : String) :
    parseMode text = .request ↔ text = "request" := by
  unfold parseMode
  by_cases isServer : text = "start-server"
  · subst isServer
    decide
  · by_cases isRequest : text = "request" <;> simp [isServer, isRequest]

/-- A command line sends what its request sends, if it has one, and nothing else. -/
theorem wire_runCli (network : Network) (argv : List String) :
    (runCli network argv).wire =
      match Asked.ofCommandLine argv with
      | none => []
      | some asked => (asked.send network).wire := by
  have noPort : (stoi "").isSome = false := by decide
  rcases argv with _ | ⟨program, _ | ⟨modeName, _ | ⟨protocolName, _ | ⟨portText,
    operands⟩⟩⟩⟩
  · rfl
  · simp [runCli, Asked.ofCommandLine, usage, Outcome.wire]
  · simp [runCli, Asked.ofCommandLine, usage, Outcome.wire, noPort]
  · simp [runCli, Asked.ofCommandLine, usage, Outcome.wire, noPort]
  · cases isPort : stoi portText with
    | none => simp [runCli, Asked.ofCommandLine, isPort, Outcome.wire]
    | some port =>
        by_cases isRequest : modeName = "request"
        · have isMode := (parseMode_eq_request_iff modeName).mpr isRequest
          have sent := wire_runRequest network (parseProtocol protocolName) operands
          have asked : Asked.ofCommandLine
                (program :: modeName :: protocolName :: portText :: operands) =
              Asked.ofOperands (parseProtocol protocolName) operands := by
            simp [Asked.ofCommandLine, isRequest, isPort, Asked.ofArguments]
          rw [asked, ← sent, runCli, isPort]
          simp only [isMode]
          cases parseProtocol protocolName with
          | unknown =>
              rw [wire_runRequest]
              cases operands <;> rfl
          | _ => rfl
        · have notMode : parseMode modeName ≠ .request :=
            fun isMode => isRequest ((parseMode_eq_request_iff modeName).mp isMode)
          have nothing : Asked.ofCommandLine
              (program :: modeName :: protocolName :: portText :: operands) = none := by
            simp [Asked.ofCommandLine, isRequest]
          rw [nothing, runCli, isPort]
          cases mode : parseMode modeName with
          | request => exact absurd mode notMode
          | invalid => rfl
          | startServer => cases parseProtocol protocolName <;> rfl

/-! ## What the PLC decodes -/

namespace Asked

theorem wire_send (network : Network) (asked : Asked) :
    (asked.send network).wire =
      if network.connected then asked.frame.take network.written.toNat else [] := by
  rcases asked.send_eq network with ⟨noticed, gaveUp⟩ | ⟨notNoticed, handedOver⟩
  · rw [gaveUp]
    cases asked with
    | modbus fn addr val =>
        rcases noticed with notConnected | failed
        · simp [notConnected, Outcome.wire]
        · have none : network.written.toNat = 0 := Int.toNat_of_nonpos (by omega)
          simp [none, Outcome.wire]
    | dnp3 fn => simp [show network.connected = false from noticed, Outcome.wire]
    | iec104 typeId => simp [show network.connected = false from noticed, Outcome.wire]
  · have connected : network.connected = true := by
      rw [← Bool.not_eq_false]
      intro notConnected
      cases asked with
      | modbus fn addr val => exact notNoticed (.inl notConnected)
      | _ => exact notNoticed notConnected
    rw [handedOver, if_pos connected]
    rfl

theorem decode_send_iff (network : Network) (asked : Asked) (value : UInt16) :
    Modbus.decodeMbapPdu (asked.send network).wire = ⟨5, 0xFFFF, value⟩ ↔
      network.connected = true ∧ network.written = 12 ∧
        Modbus.decodeMbapPdu asked.frame = ⟨5, 0xFFFF, value⟩ := by
  have atMost := network.written_le
  rw [wire_send]
  by_cases connected : network.connected = true
  · rw [if_pos connected]
    by_cases whole : network.written = 12
    · rw [take_frame whole]
      simp [connected, whole]
    · have short : (asked.frame.take network.written.toNat).length < 12 := by
        rw [List.length_take, length_frame]
        omega
      rw [Modbus.decodeMbapPdu_of_short short]
      apply iff_of_false
      · intro equal
        cases equal
      · exact fun all => whole all.2.1
  · rw [if_neg connected]
    apply iff_of_false
    · intro equal
      cases equal
    · exact fun all => connected all.1

theorem decode_frame_modbus (fn addr val : Int) (value : UInt16) :
    Modbus.decodeMbapPdu (frame (.modbus fn addr val)) = ⟨5, 0xFFFF, value⟩ ↔
      fn % 256 = 5 ∧ addr % 65536 = 0xFFFF ∧ val % 65536 = value.toNat := by
  rw [frame, Modbus.Client.requestFrame_eq, Modbus.decode_encode, Modbus.PDU.mk.injEq,
    Bytes.ofInt8_eq_iff, Bytes.ofInt16_eq_iff, Bytes.ofInt16_eq_iff]
  rfl

end Asked

/-! ## Invocations -/

structure Invocation where
  network : Network
  argv : List String

namespace Invocation

def wire (invocation : Invocation) : List UInt8 :=
  (runCli invocation.network invocation.argv).wire

/-- It sends the Modbus request to write the value to the safety coil, as far as the
fields of a frame can tell its integers. -/
def Commands (value : UInt16) (invocation : Invocation) : Prop :=
  ∃ fn addr val,
    Asked.ofCommandLine invocation.argv = some (.modbus fn addr val) ∧
      (fn % 256 = 5 ∧ addr % 65536 = 0xFFFF ∧ val % 65536 = value.toNat) ∧
      invocation.network.connected = true ∧ invocation.network.written = 12

theorem decode_wire_iff (invocation : Invocation) (value : UInt16) :
    Modbus.decodeMbapPdu invocation.wire = ⟨5, 0xFFFF, value⟩ ↔
      invocation.Commands value := by
  rcases invocation with ⟨network, argv⟩
  rw [wire, wire_runCli, Commands]
  cases isAsked : Asked.ofCommandLine argv with
  | none =>
      apply iff_of_false
      · intro equal
        cases equal
      · rintro ⟨fn, addr, val, isSome, _⟩
        cases isSome
  | some asked =>
      dsimp only
      rw [asked.decode_send_iff]
      cases asked with
      | modbus fn addr val =>
          rw [Asked.decode_frame_modbus]
          constructor
          · rintro ⟨connected, whole, integers⟩
            exact ⟨fn, addr, val, rfl, integers, connected, whole⟩
          · rintro ⟨_, _, _, equal, integers, connected, whole⟩
            cases equal
            exact ⟨connected, whole, integers⟩
      | dnp3 fn =>
          apply iff_of_false
          · rintro ⟨_, _, equal⟩
            have function : (0xC0 : UInt8) = 5 := congrArg Modbus.PDU.function equal
            exact absurd function (by decide)
          · rintro ⟨_, _, _, equal, _⟩
            cases equal
      | iec104 typeId =>
          apply iff_of_false
          · rintro ⟨_, _, equal⟩
            have function : (0x01 : UInt8) = 5 := congrArg Modbus.PDU.function equal
            exact absurd function (by decide)
          · rintro ⟨_, _, _, equal, _⟩
            cases equal

open Modbus.Server in
/-- Whatever command lines are run one after another, with whatever the network answers,
the PLC that receives what they send is locked exactly if one of them engages the lock
and none after it releases it. -/
theorem command_lines_decide_lock (invocations : List Invocation) :
    (Modbus.Server.machine.finalState {} (invocations.map wire)).writeLocked = true ↔
      ∃ before engage after, invocations = before ++ engage :: after ∧
        engage.Commands 0xFF00 ∧ ∀ later ∈ after, ¬later.Commands 0x0000 := by
  rw [writeLocked_finalState_iff]
  constructor
  · rintro ⟨before, frame, after, split, engages, notReleased⟩
    rcases List.map_eq_append_iff.mp split with ⟨first, rest, rfl, _, restWires⟩
    rcases List.map_eq_cons_iff.mp restWires with ⟨engage, last, rfl, rfl, rfl⟩
    refine ⟨first, engage, last, rfl, (engage.decode_wire_iff 0xFF00).mp engages, ?_⟩
    intro later isLater releases
    exact notReleased later.wire (List.mem_map_of_mem isLater)
      ((later.decode_wire_iff 0x0000).mpr releases)
  · rintro ⟨before, engage, after, rfl, engages, notReleased⟩
    refine ⟨before.map wire, engage.wire, after.map wire, by simp,
      (engage.decode_wire_iff 0xFF00).mpr engages, ?_⟩
    intro frame member
    rcases List.mem_map.mp member with ⟨later, isLater, rfl⟩
    exact fun releases =>
      notReleased later isLater ((later.decode_wire_iff 0x0000).mp releases)

/-- Negative integers are narrowed as well: these command the lock to be engaged. -/
example : Commands 0xFF00 ⟨⟨true, 12, Int.le_refl 12⟩,
    ["scada-sim", "request", "modbus", "502", "-251", "-1", "-256"]⟩ :=
  ⟨-251, -1, -256, by decide, by decide, rfl, rfl⟩

end Invocation

/-! ## The HTTP handlers -/

namespace Api

/-- The body of a request. A field that is missing is zero. -/
structure Req where
  fc : Int := 0
  count : Int := 0
  deriving DecidableEq, Repr

def Req.repetitions (req : Req) : Nat := if req.count ≤ 0 then 1 else req.count.toNat

/-- The commands `generateHandler` runs. -/
def seq : List (List String) :=
  [["scada-sim", "request", "modbus", "502", "3", "10", "1"],
   ["scada-sim", "request", "modbus", "502", "8", "10", "1"],
   ["scada-sim", "request", "modbus", "502", "5", "20", "1"],
   ["scada-sim", "request", "dnp3", "20000", "130", "5"]]

inductive Call
  | modbus (req : Req)
  | dnp3 (req : Req)
  | generate
  deriving DecidableEq, Repr

def Call.commands : Call → List (List String)
  | .modbus req => List.replicate req.repetitions (modbusHandler req.fc)
  | .dnp3 req => List.replicate req.repetitions (dnp3Handler req.fc)
  | .generate => seq

theorem ofCommandLine_modbusHandler (fc : Int) :
    Asked.ofCommandLine (modbusHandler fc) =
      (stoi (toString fc)).map fun fn => .modbus fn 10 1 := by
  have port : (stoi "502").isSome = true := by decide
  have addr : stoi "10" = some 10 := by decide
  have val : stoi "1" = some 1 := by decide
  rw [Asked.ofCommandLine, if_pos ⟨rfl, port⟩]
  change (do return Asked.modbus (← stoi (toString fc)) (← stoi "10") (← stoi "1")) = _
  rw [addr, val]
  cases stoi (toString fc) <;> rfl

theorem ofCommandLine_dnp3Handler (fc : Int) :
    Asked.ofCommandLine (dnp3Handler fc) = (stoi (toString fc)).map .dnp3 := by
  have port : (stoi "20000").isSome = true := by decide
  rw [Asked.ofCommandLine, if_pos ⟨rfl, port⟩]
  rfl

theorem address_of_mem {call : Call} {argv : List String}
    (member : argv ∈ call.commands) {fn addr val : Int}
    (isAsked : Asked.ofCommandLine argv = some (.modbus fn addr val)) :
    addr = 10 ∨ addr = 20 := by
  cases call with
  | modbus req =>
      rw [List.eq_of_mem_replicate member, ofCommandLine_modbusHandler,
        Option.map_eq_some_iff] at isAsked
      rcases isAsked with ⟨_, _, isModbus⟩
      cases isModbus
      exact .inl rfl
  | dnp3 req =>
      rw [List.eq_of_mem_replicate member, ofCommandLine_dnp3Handler,
        Option.map_eq_some_iff] at isAsked
      rcases isAsked with ⟨_, _, isModbus⟩
      cases isModbus
  | generate =>
      simp only [Call.commands, seq, List.mem_cons, List.not_mem_nil, or_false] at member
      rcases member with rfl | rfl | rfl | rfl
      · have reads : some (Asked.modbus 3 10 1) = some (.modbus fn addr val) := isAsked
        cases reads
        exact .inl rfl
      · have reads : some (Asked.modbus 8 10 1) = some (.modbus fn addr val) := isAsked
        cases reads
        exact .inl rfl
      · have reads : some (Asked.modbus 5 20 1) = some (.modbus fn addr val) := isAsked
        cases reads
        exact .inr rfl
      · have reads : some (Asked.dnp3 130) = some (.modbus fn addr val) := isAsked
        cases reads

structure Run extends Invocation where
  fromCall : ∃ call : Call, argv ∈ call.commands

namespace Run

theorem not_commands (run : Run) (value : UInt16) :
    ¬run.toInvocation.Commands value := by
  rintro ⟨fn, addr, val, isAsked, ⟨_, isCoil, _⟩, _⟩
  rcases run.fromCall with ⟨call, member⟩
  rcases address_of_mem member isAsked with rfl | rfl <;> cases isCoil

theorem decode_wire_ne (run : Run) (value : UInt16) :
    Modbus.decodeMbapPdu run.wire ≠ ⟨5, 0xFFFF, value⟩ :=
  fun equal => run.not_commands value ((run.toInvocation.decode_wire_iff value).mp equal)

open Modbus.Server

theorem serve_wire (server : Modbus.Server) (run : Run) :
    (server.serve run.wire).1 = server := by
  apply serve_eq_self_of_not_isCommand
  rw [isCommand_iff, not_or]
  exact ⟨run.decode_wire_ne 0xFF00, run.decode_wire_ne 0x0000⟩

theorem refusesWrite_wire (server : Modbus.Server) (run : Run) :
    RefusesWrite server run.wire := by
  rw [refusesWrite_iff]
  rintro ⟨_, stray⟩
  have function := stray.function
  have address := stray.address
  apply run.decode_wire_ne (Modbus.decodeMbapPdu run.wire).value
  rw [← function, ← address]

end Run

open Modbus.Server

/-- The PLC, with the commands of the handlers told from the other frames it receives. -/
def shared : Machine Modbus.Server (Run ⊕ List UInt8) (Option (List UInt8)) where
  step
    | server, .inl run => server.serve run.wire
    | server, .inr received => server.serve received

theorem shared_stuttering : Machine.Stuttering shared machine Sum.getRight? where
  idle
    | server, .inl run, _ => run.serve_wire server
  shown
    | _, .inr _, _, rfl => rfl

/-- Whatever the handlers are called with and however their commands and other frames
interleave, the PLC is left as it is by the other frames alone, these get the same
answers, and while it is locked every write of the handlers is refused. -/
theorem handlers_leave_lock (server : Modbus.Server)
    (traffic : List (Run ⊕ List UInt8)) :
    shared.finalState server traffic =
        machine.finalState server (traffic.filterMap Sum.getRight?) ∧
      Machine.outputsFor Sum.getRight? traffic (shared.outputs server traffic) =
        machine.outputs server (traffic.filterMap Sum.getRight?) ∧
      shared.Along
        (fun server input => ∀ run, input = .inl run → RefusesWrite server run.wire)
        server traffic :=
  ⟨shared_stuttering.finalState server traffic,
    shared_stuttering.outputs server traffic,
    fun _ _ _ _ run _ => run.refusesWrite_wire _⟩

end Api

end Prism.Simulator

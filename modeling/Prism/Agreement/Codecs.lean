import Prism.Enforcement.EnforcementEngine
import Prism.Parser.Parsers
import Prism.Simulator.Frames

/-! # Agreement of encoders and decoders

The layouts of the frames are restated by the simulator's clients, its server,
the enforcement engine and PRISM's parsers. This file compares the copies.
-/

namespace Prism.Agreement

open Prism.Parser Prism.Simulator Prism.Enforcement

/-! ## Requests and the records PRISM makes of them -/

/-- PRISM keeps a record of the packet, with the name of the request's protocol
and its code, as a request. -/
def SeenAsRequested (request : Request) (packet : RawPacket) : Prop :=
  ∃ record, parseAs (classifyProtocol packet) packet = some record ∧
    isDropped record = false ∧ record.protocol = request.protocol ∧
    record.functionCode = request.code ∧ record.isRequest = true

structure Carries (packet : RawPacket) (request : Request) : Prop where
  payload : packet.payload = request.frame
  dstPort : packet.dstPort = request.port
  srcPort : packet.srcPort ≠ 502 ∧ packet.srcPort ≠ 20000 ∧ packet.srcPort ≠ 2404

theorem modbus_seen {packet : RawPacket} {fn : UInt8} {addr val : UInt16}
    (carries : Carries packet (.modbus fn addr val)) :
    SeenAsRequested (.modbus fn addr val) packet := by
  have toModbus : packet.dstPort = 502 := carries.dstPort
  have payload : packet.payload = Modbus.Client.requestFrame fn addr val :=
    carries.payload
  refine ⟨ModbusParser.parse packet, ?_⟩
  simp [classifyProtocol, parseAs, ModbusParser.parse, toModbus, payload,
    Modbus.Client.requestFrame, Modbus.Client.encodeMbapPdu, isDropped,
    Request.protocol, Request.code]

theorem iec104_seen {packet : RawPacket} {typeId : UInt8} {ioa : UInt16}
    (nonzero : typeId ≠ 0) (carries : Carries packet (.iec104 typeId ioa)) :
    SeenAsRequested (.iec104 typeId ioa) packet := by
  have toIEC104 : packet.dstPort = 2404 := carries.dstPort
  have payload : packet.payload = IEC104.buildFrame typeId ioa := carries.payload
  rcases carries.srcPort with ⟨notModbus, notDNP3, _⟩
  refine ⟨IEC104Parser.parse packet, ?_⟩
  simp [classifyProtocol, parseAs, IEC104Parser.parse, toIEC104, payload,
    IEC104.buildFrame, zeroFrame, notModbus, notDNP3, nonzero, isDropped,
    Request.protocol, Request.code]

/-- The DNP3 client's frame is one byte shorter than what the parser asks for. -/
theorem dnp3_dropped {packet : RawPacket} {func : UInt8}
    (carries : Carries packet (.dnp3 func)) :
    ∃ record, parseAs (classifyProtocol packet) packet = some record ∧
      isDropped record = true := by
  have toDNP3 : packet.dstPort = 20000 := carries.dstPort
  have payload : packet.payload = DNP3.buildFrame func := carries.payload
  have short : packet.payload.length < 13 := by
    simp [payload, DNP3.buildFrame, zeroFrame]
  refine ⟨DNP3Parser.parse packet, ?_, ?_⟩
  · simp [classifyProtocol, parseAs, toDNP3, carries.srcPort.1]
  · rw [DNP3Parser.parse_of_short toDNP3 short]
    rfl

/-- PRISM sees a simulator request as what it is exactly when it is not a DNP3
request: those are all dropped. -/
theorem seen_as_requested_iff_not_dnp3 (request : Request) (packet : RawPacket)
    (typed : request.IsTyped) (carries : Carries packet request) :
    SeenAsRequested request packet ↔ ∀ func, request ≠ .dnp3 func := by
  cases request with
  | modbus fn addr val =>
      exact iff_of_true (modbus_seen carries) (fun _ equal => nomatch equal)
  | dnp3 func =>
      apply iff_of_false
      · intro seen
        rcases seen with ⟨record, parsed, kept, _⟩
        rcases dnp3_dropped carries with ⟨other, sameParse, dropped⟩
        rw [Option.some.inj (parsed.symm.trans sameParse), dropped] at kept
        cases kept
      · intro notDNP3
        exact notDNP3 func rfl
  | iec104 typeId ioa =>
      exact iff_of_true (iec104_seen typed carries) (fun _ equal => nomatch equal)

def packetOf (request : Request) : RawPacket where
  payload := request.frame
  srcPort := 40000
  dstPort := request.port

theorem seen_as_requested_iff_not_dnp3_of_modbus_read :
    SeenAsRequested (.modbus 3 10 1) (packetOf (.modbus 3 10 1)) :=
  (seen_as_requested_iff_not_dnp3 (.modbus 3 10 1) (packetOf (.modbus 3 10 1))
    trivial ⟨rfl, rfl, by decide⟩).mpr (fun _ equal => nomatch equal)

/-- A DNP3 read request is lost on its way into PRISM. -/
theorem dnp3_read_not_seen :
    ¬∀ (request : Request) (packet : RawPacket), request.IsTyped →
      Carries packet request → SeenAsRequested request packet := by
  intro everywhere
  have carries : Carries (packetOf (.dnp3 1)) (.dnp3 1) := ⟨rfl, rfl, by decide⟩
  rcases everywhere (.dnp3 1) _ trivial carries with ⟨record, parsed, kept, _⟩
  rcases dnp3_dropped carries with ⟨other, sameParse, dropped⟩
  rw [Option.some.inj (parsed.symm.trans sameParse), dropped] at kept
  cases kept

/-! ## The Modbus codecs -/

theorem safetyCoilFrame_eq (value : UInt16) :
    safetyCoilFrame value = Modbus.encodeMbapPdu ⟨5, 0xFFFF, value⟩ := by
  simp only [safetyCoilFrame, Modbus.encodeMbapPdu, Bytes.toUInt8_and_mask]
  rfl

/-- Parser and PLC read the same fields; from a payload that is too short both
read none and keep their defaults. -/
theorem parse_eq_decode (packet : RawPacket) :
    let record := ModbusParser.parse packet
    let pdu := Modbus.decodeMbapPdu packet.payload
    record.functionCode = pdu.function ∧ record.address = pdu.address ∧
      record.isWrite = Modbus.isWriteFc pdu.function := by
  by_cases short : packet.payload.length < 12
  · rw [ModbusParser.parse_of_short short, Modbus.decodeMbapPdu_of_short short]
    exact ⟨rfl, rfl, rfl⟩
  · simp [ModbusParser.parse, Modbus.decodeMbapPdu, short, Modbus.isWriteFc]

theorem locked_blocks_iff (packet : RawPacket) :
    let record := ModbusParser.parse packet
    (Modbus.Server.serve ⟨true⟩ packet.payload).2 =
        some (Modbus.encodeException record.functionCode 0x01) ↔
      record.isWrite = true ∧
        ¬(record.functionCode = 5 ∧ record.address = 0xFFFF) := by
  intro record
  by_cases empty : packet.payload = []
  · have notWrite : record.isWrite = false := by
      simp [record, ModbusParser.parse, empty]
    simp [empty, notWrite]
  · rcases parse_eq_decode packet with ⟨sameFunction, sameAddress, sameWrite⟩
    rw [Modbus.Server.serve_of_nonempty _ empty, Option.some.injEq, sameFunction,
      sameAddress, sameWrite]
    exact Modbus.Server.respond_eq_exception_iff rfl _

/-- All Modbus codecs agree. Client, server and enforcement engine encode a PDU
to the same bytes and decoding undoes encoding; parser and PLC reject the same
payloads to port 502 as too short, read the same fields, and PRISM counts as
writes what a locked PLC blocks, safety-coil FC5 apart. -/
theorem modbus_codecs_agree :
    (∀ (function : UInt8) (address value : UInt16),
      Modbus.Client.requestFrame function address value =
          Modbus.encodeMbapPdu ⟨function, address, value⟩ ∧
        safetyCoilFrame value = Modbus.encodeMbapPdu ⟨5, 0xFFFF, value⟩ ∧
        Modbus.decodeMbapPdu (Modbus.encodeMbapPdu ⟨function, address, value⟩) =
          ⟨function, address, value⟩) ∧
    (∀ packet : RawPacket, packet.dstPort = 502 →
      let record := ModbusParser.parse packet
      let pdu := Modbus.decodeMbapPdu packet.payload
      classifyProtocol packet = .modbus ∧
        (record.protocol = "Unknown" ↔ packet.payload.length < 12) ∧
        (packet.payload.length < 12 → pdu = {}) ∧
        record.functionCode = pdu.function ∧ record.address = pdu.address ∧
        record.isWrite = Modbus.isWriteFc pdu.function ∧
        ((Modbus.Server.serve ⟨true⟩ packet.payload).2 =
            some (Modbus.encodeException record.functionCode 0x01) ↔
          record.isWrite = true ∧
            ¬(record.functionCode = 5 ∧ record.address = 0xFFFF))) := by
  constructor
  · intro function address value
    exact ⟨Modbus.Client.requestFrame_eq function address value,
      safetyCoilFrame_eq value, Modbus.decode_encode _⟩
  · intro packet toModbus record pdu
    refine ⟨?_, ModbusParser.protocol_eq_unknown_iff packet,
      Modbus.decodeMbapPdu_of_short, ?_⟩
    · simp [classifyProtocol, toModbus]
    · rcases parse_eq_decode packet with ⟨sameFunction, sameAddress, sameWrite⟩
      exact ⟨sameFunction, sameAddress, sameWrite, locked_blocks_iff packet⟩

theorem modbus_codecs_agree_on_write :
    let packet := packetOf (.modbus 6 16 1)
    (ModbusParser.parse packet).isWrite =
      Modbus.isWriteFc (Modbus.decodeMbapPdu packet.payload).function :=
  (modbus_codecs_agree.2 (packetOf (.modbus 6 16 1)) rfl).2.2.2.2.2.1

end Prism.Agreement

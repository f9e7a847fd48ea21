import Prism.Agreement.ObjectAddresses
import Prism.Capture.Encapsulation
import Prism.Main.Loops
import Prism.Simulator.Servers

/-! # What PRISM sees of the simulator

Sessions of the simulator's clients with its three servers, as frames on the wire, and
the records PRISM keeps of them.
-/

namespace Prism.System

open Prism.Agreement Prism.Capture Prism.Main Prism.Parser Prism.Simulator

/-! ## Records of single messages -/

/-- The record of a request, or of its echo if `isReply`. -/
def recorded (now : Timestamp) (isReply : Bool) : Request → Option ParsedRecord
  | .modbus fn addr _ => some
      { timestamp := now
        protocol := "Modbus"
        isRequest := !isReply
        isWrite := Modbus.isWriteFc fn
        functionCode := fn
        address := addr }
  | .dnp3 _ => none
  | .iec104 typeId ioa =>
      if typeId = 0 then none
      else some
        { timestamp := now
          protocol := "IEC104"
          isRequest := true
          isWrite := decide (45 ≤ typeId) && decide (typeId ≤ 50)
          functionCode := typeId
          address := (ioa <<< 8) ||| 1 }

theorem keptRecord_of_short {packet : RawPacket} (short : packet.payload.length < 12) :
    keptRecord packet = none := by
  rw [keptRecord, Option.filter_eq_none_iff]
  intro record parsed
  unfold classifyProtocol at parsed
  split at parsed
  · cases parsed
    simp [ModbusParser.parse_of_short short, isDropped]
  · split at parsed
    · rename_i toDNP3
      cases parsed
      have port : ¬(packet.srcPort ≠ 20000 ∧ packet.dstPort ≠ 20000) := by
        rintro ⟨notSrc, notDst⟩
        exact toDNP3.elim notSrc notDst
      have tooShort : packet.payload.length < 13 := by omega
      simp [DNP3Parser.parse, if_neg port, tooShort, isDropped]
    · split at parsed
      · cases parsed
        have empty : IEC104Parser.parse packet = {} := by
          unfold IEC104Parser.parse
          split <;> rfl
        simp [empty, isDropped]
      · cases parsed

theorem keptRecord_modbus {packet : RawPacket} {fn : UInt8} {addr val : UInt16}
    (payload : packet.payload = Modbus.Client.requestFrame fn addr val)
    (port : packet.srcPort = 502 ∨ packet.dstPort = 502) :
    keptRecord packet =
      recorded packet.timestamp (packet.dstPort != 502) (.modbus fn addr val) := by
  have long : ¬packet.payload.length < 12 := by
    rw [payload]
    exact Nat.lt_irrefl 12
  have decoded : Modbus.decodeMbapPdu packet.payload = ⟨fn, addr, val⟩ := by
    rw [payload, Modbus.Client.requestFrame_eq, Modbus.decode_encode]
  rcases parse_eq_decode packet with ⟨sameFunction, sameAddress, _⟩
  have isModbus : classifyProtocol packet = .modbus := by
    rw [classifyProtocol, if_pos port]
  have parsed : some (ModbusParser.parse packet) =
      recorded packet.timestamp (packet.dstPort != 502) (.modbus fn addr val) := by
    rw [decoded] at sameFunction sameAddress
    simp only [ModbusParser.parse, dif_neg long] at sameFunction sameAddress
    simp only [ModbusParser.parse, dif_neg long, recorded, sameFunction, sameAddress,
      Modbus.isWriteFc, bne, Bool.not_not]
  rw [keptRecord, isModbus, parseAs, parsed]
  exact Option.filter_eq_some_iff.mpr ⟨rfl, by simp [isDropped]⟩

theorem keptRecord_dnp3 {packet : RawPacket} {func : UInt8}
    (payload : packet.payload = DNP3.buildFrame func)
    (port : packet.srcPort = 20000 ∨ packet.dstPort = 20000)
    (notModbus : packet.srcPort ≠ 502 ∧ packet.dstPort ≠ 502) :
    keptRecord packet = none := by
  have isDNP3 : classifyProtocol packet = .dnp3 := by
    rw [classifyProtocol, if_neg (not_or.mpr notModbus), if_pos port]
  have accepted : ¬(packet.srcPort ≠ 20000 ∧ packet.dstPort ≠ 20000) := by
    rintro ⟨notSrc, notDst⟩
    exact port.elim notSrc notDst
  have short : packet.payload.length < 13 := by
    rw [payload]
    exact Nat.lt_succ_self 12
  rw [keptRecord, isDNP3, parseAs, DNP3Parser.parse, if_neg accepted, dif_pos short]
  simp [isDropped]

theorem toNat_shifted (ioa : UInt16) :
    ((ioa <<< 8) ||| 1).toNat = 1 + 256 * (ioa.toNat % 256) := by
  have shifted : (ioa <<< 8).toNat = (ioa.toNat % 256) <<< 8 := by
    change ioa.toNat <<< 8 % 2 ^ 16 = _
    rw [Nat.shiftLeft_eq, Nat.shiftLeft_eq]
    omega
  rw [UInt16.toNat_or, shifted]
  change (ioa.toNat % 256) <<< 8 ||| 1 = _
  rw [← Nat.shiftLeft_add_eq_or_of_lt (by decide), Nat.shiftLeft_eq]
  omega

theorem keptRecord_untyped {packet : RawPacket} {ioa : UInt16}
    (payload : packet.payload = IEC104.buildFrame 0 ioa)
    (notModbus : packet.srcPort ≠ 502 ∧ packet.dstPort ≠ 502)
    (notDNP3 : packet.srcPort ≠ 20000 ∧ packet.dstPort ≠ 20000) :
    keptRecord packet = none := by
  have notAccepted : ¬AcceptedAsIEC104 packet := by
    rw [acceptedAsIEC104_iff]
    intro layout
    have typed := layout.typed
    simp [payload, IEC104.buildFrame, zeroFrame] at typed
  have dropped : isDropped (IEC104Parser.parse packet) = true :=
    Bool.not_eq_false _ |>.mp notAccepted
  rw [keptRecord, classifyProtocol, if_neg (not_or.mpr notModbus),
    if_neg (not_or.mpr notDNP3)]
  split
  · simp [parseAs, dropped]
  · rfl

theorem keptRecord_iec104 {packet : RawPacket} {typeId : UInt8} {ioa : UInt16}
    (payload : packet.payload = IEC104.buildFrame typeId ioa)
    (port : packet.srcPort = 2404 ∨ packet.dstPort = 2404)
    (notModbus : packet.srcPort ≠ 502 ∧ packet.dstPort ≠ 502)
    (notDNP3 : packet.srcPort ≠ 20000 ∧ packet.dstPort ≠ 20000) (isReply : Bool) :
    keptRecord packet = recorded packet.timestamp isReply (.iec104 typeId ioa) := by
  by_cases untyped : typeId = 0
  · subst untyped
    exact keptRecord_untyped payload notModbus notDNP3
  have isIEC104 : classifyProtocol packet = .iec104 := by
    rw [classifyProtocol, if_neg (not_or.mpr notModbus), if_neg (not_or.mpr notDNP3),
      if_pos port]
  have layout : IEC104Layout packet :=
    { port := port
      long := by
        rw [payload]
        exact Nat.le_refl 12
      start := by simp [payload, IEC104.buildFrame, zeroFrame]
      typed := by simp [payload, IEC104.buildFrame, zeroFrame, untyped] }
  have address : (IEC104Parser.parse packet).address = (ioa <<< 8) ||| 1 := by
    apply UInt16.toNat_inj.mp
    rw [toNat_address ((acceptedAsIEC104_iff packet).mpr layout), objectAddress, payload,
      toNat_shifted]
    simp only [IEC104.buildFrame, zeroFrame, Bytes.toUInt8_and_mask]
    change (1 + 256 * (ioa.toNat % 256) + 65536 * _) % 65536 = _
    omega
  have parsed : some (IEC104Parser.parse packet) =
      recorded packet.timestamp isReply (.iec104 typeId ioa) := by
    rw [parse_of_layout layout, recorded, if_neg untyped]
    rw [parse_of_layout layout] at address
    dsimp only at address
    rw [address, payload]
    simp [IEC104.buildFrame, zeroFrame]
  rw [keptRecord, isIEC104, parseAs, parsed, recorded, if_neg untyped]
  exact Option.filter_eq_some_iff.mpr ⟨rfl, by simp [isDropped]⟩

/-! ## Captured messages -/

structure Message where
  srcPort : UInt16
  dstPort : UInt16
  data : List UInt8
  deriving DecidableEq, Repr

def untimed (record : ParsedRecord) : ParsedRecord := { record with timestamp := 0 }

/-- A message as a packet, without time and addresses. -/
def Message.packet (message : Message) : RawPacket where
  payload := message.data
  srcPort := message.srcPort
  dstPort := message.dstPort

theorem keptRecord_bare {message : Message} (noData : message.data = []) :
    keptRecord message.packet = none := by
  apply keptRecord_of_short
  change message.data.length < 12
  rw [noData]
  decide

/-- Ethernet pads its frames to sixty bytes. -/
def mostPadding (linktype : Int) (segment : Segment) : Nat :=
  if linktype = DLT_EN10MB then 60 - (PcapCapture.l2 linktype + segment.bytes.length)
  else 0

/-- Six bytes of data fill the smallest frame. -/
theorem mostPadding_le (linktype : Int) (segment : Segment) :
    mostPadding linktype segment ≤ 6 - segment.data.length := by
  have total := segment.length_bytes
  rw [Segment.totalLength] at total
  unfold mostPadding
  split
  · rename_i ethernet
    have header : PcapCapture.l2 linktype = 14 := by
      rw [ethernet]
      rfl
    omega
  · exact Nat.zero_le _

/-- A call of `nextPacket` fails, or it captures a frame with a message in a segment. -/
inductive Yields (capture : PcapCapture) : CaptureOutcome → Option Message → Prop
  | nothing (leftover : RawPacket) : Yields capture (.failed leftover) none
  | message {now : Timestamp} {answer : NextEx} {packet : RawPacket} {frame : Capture.Frame}
      {segment : Segment} {padding : List UInt8}
      (handed : capture.handed answer = some frame)
      (encapsulates : Encapsulates capture.linktype frame segment padding)
      (padded : padding.length ≤ mostPadding capture.linktype segment) :
      Yields capture (.ofCall capture now answer packet)
        (some ⟨segment.srcPort, segment.dstPort, segment.data⟩)

theorem keptRecord_untimed (packet : RawPacket) :
    (keptRecord packet).map untimed =
      keptRecord (Message.packet ⟨packet.srcPort, packet.dstPort, packet.payload⟩) := by
  rcases packet with ⟨now, payload, srcIp, dstIp, srcPort, dstPort⟩
  have parsed : ∀ proto,
      (parseAs proto ⟨now, payload, srcIp, dstIp, srcPort, dstPort⟩).map untimed =
        parseAs proto (Message.packet ⟨srcPort, dstPort, payload⟩) := by
    intro proto
    cases proto with
    | unknown => rfl
    | modbus =>
        by_cases short : payload.length < 12 <;>
          simp [parseAs, Message.packet, ModbusParser.parse, untimed, short]
    | dnp3 =>
        by_cases port : srcPort = 20000 ∨ dstPort = 20000
        · by_cases short : payload.length < 13 <;>
            rcases port with port | port <;>
              simp [parseAs, Message.packet, DNP3Parser.parse, untimed, port, short]
        · rcases not_or.mp port with ⟨notSrc, notDst⟩
          simp [parseAs, Message.packet, DNP3Parser.parse, untimed, notSrc, notDst]
    | iec104 =>
        by_cases port : srcPort = 2404 ∨ dstPort = 2404
        · by_cases short : payload.length < 12
          · rcases port with port | port <;>
              simp [parseAs, Message.packet, IEC104Parser.parse, untimed, port, short]
          · by_cases start : payload[0] = 0x68 <;> by_cases typed : payload[6] = 0 <;>
              rcases port with port | port <;>
                simp [parseAs, Message.packet, IEC104Parser.parse, untimed, port, short,
                  start, typed]
        · rcases not_or.mp port with ⟨notSrc, notDst⟩
          simp [parseAs, Message.packet, IEC104Parser.parse, untimed, notSrc, notDst]
  have sameProtocol :
      classifyProtocol ⟨now, payload, srcIp, dstIp, srcPort, dstPort⟩ =
        classifyProtocol (Message.packet ⟨srcPort, dstPort, payload⟩) := rfl
  rw [keptRecord, keptRecord, sameProtocol, ← parsed]
  cases parseAs _ _ with
  | none => rfl
  | some record =>
      have same : isDropped (untimed record) = isDropped record := rfl
      rw [Option.map_some, Option.filter_some, Option.filter_some, same]
      split <;> rfl

/-- A captured message is kept as if it had been handed over without padding, which
only messages have that are too short for every parser. -/
theorem Yields.kept {capture : PcapCapture} {outcome : CaptureOutcome}
    {yielded : Option Message} (yields : Yields capture outcome yielded) :
    outcome.kept.map untimed = yielded.bind fun message => keptRecord message.packet := by
  cases yields with
  | nothing leftover => rfl
  | @message now answer packet frame segment padding handed encapsulates padded =>
      have isPacket := (nextPacket_encapsulated capture now answer frame segment padding
        packet handed encapsulates).1
      have isKept : (CaptureOutcome.ofCall capture now answer packet).kept =
          keptRecord (segment.packet now padding) := by
        rw [CaptureOutcome.ofCall, isPacket]
        rfl
      have room := padded.trans (mostPadding_le capture.linktype segment)
      rw [isKept]
      change _ = keptRecord (Message.packet _)
      by_cases short : segment.data.length < 6
      · have shortPadded : (segment.packet now padding).payload.length < 12 := by
          change (segment.data ++ padding).length < 12
          rw [List.length_append]
          omega
        have shortAlone : segment.data.length < 12 := by omega
        rw [keptRecord_of_short shortPadded]
        exact (keptRecord_of_short shortAlone).symm
      · have noPadding : padding = [] := List.eq_nil_of_length_eq_zero (by omega)
        rw [keptRecord_untimed, noPadding, Segment.packet, List.append_nil]

/-! ## Sessions -/

/-- The port is none of the servers'. -/
def IsEphemeral (port : UInt16) : Prop := port ≠ 502 ∧ port ≠ 20000 ∧ port ≠ 2404

instance (port : UInt16) : Decidable (IsEphemeral port) :=
  inferInstanceAs (Decidable (_ ∧ _))

structure Exchange where
  request : Request
  clientPort : UInt16
  ephemeral : IsEphemeral clientPort

namespace Exchange

def messages (exchange : Exchange) (reply : List UInt8) : List Message :=
  [⟨exchange.clientPort, exchange.request.port, exchange.request.frame⟩,
   ⟨exchange.request.port, exchange.clientPort, reply⟩]

def records (exchange : Exchange) (reply : List UInt8) : List ParsedRecord :=
  (recorded 0 false exchange.request).toList ++
    if isRefused exchange.request reply then []
    else (recorded 0 true exchange.request).toList

theorem keptRecord_asked (exchange : Exchange) :
    keptRecord (Message.packet
      ⟨exchange.clientPort, exchange.request.port, exchange.request.frame⟩) =
        recorded 0 false exchange.request := by
  rcases exchange with ⟨request, clientPort, notModbus, notDNP3, notIEC104⟩
  have dnp3NotModbus : (20000 : UInt16) ≠ 502 := by decide
  have iec104NotModbus : (2404 : UInt16) ≠ 502 := by decide
  have iec104NotDNP3 : (2404 : UInt16) ≠ 20000 := by decide
  cases request with
  | modbus fn addr val => exact keptRecord_modbus rfl (.inr rfl)
  | dnp3 func => exact keptRecord_dnp3 rfl (.inr rfl) ⟨notModbus, dnp3NotModbus⟩
  | iec104 typeId ioa =>
      exact keptRecord_iec104 rfl (.inr rfl) ⟨notModbus, iec104NotModbus⟩
        ⟨notDNP3, iec104NotDNP3⟩ false

theorem keptRecord_echoed (exchange : Exchange) :
    keptRecord (Message.packet
      ⟨exchange.request.port, exchange.clientPort, exchange.request.frame⟩) =
        recorded 0 true exchange.request := by
  rcases exchange with ⟨request, clientPort, notModbus, notDNP3, notIEC104⟩
  have dnp3NotModbus : (20000 : UInt16) ≠ 502 := by decide
  have iec104NotModbus : (2404 : UInt16) ≠ 502 := by decide
  have iec104NotDNP3 : (2404 : UInt16) ≠ 20000 := by decide
  cases request with
  | modbus fn addr val =>
      have kept : keptRecord (Message.packet
            ⟨502, clientPort, Modbus.Client.requestFrame fn addr val⟩) =
          recorded 0 (clientPort != 502) (.modbus fn addr val) :=
        keptRecord_modbus rfl (.inl rfl)
      rw [bne_iff_ne.mpr notModbus] at kept
      exact kept
  | dnp3 func => exact keptRecord_dnp3 rfl (.inl rfl) ⟨dnp3NotModbus, notModbus⟩
  | iec104 typeId ioa =>
      exact keptRecord_iec104 rfl (.inl rfl) ⟨iec104NotModbus, notModbus⟩
        ⟨iec104NotDNP3, notDNP3⟩ true

theorem keptRecord_answered (exchange : Exchange) (server : Modbus.Server) :
    let reply := (answer server exchange.request).2
    keptRecord (Message.packet ⟨exchange.request.port, exchange.clientPort, reply⟩) =
      if isRefused exchange.request reply then none
      else recorded 0 true exchange.request := by
  intro reply
  rcases answer_cases server exchange.request with isEcho | ⟨_, isException⟩
  · have isReply : reply = exchange.request.frame := isEcho
    rw [isReply, isRefused_frame, exchange.keptRecord_echoed]
    rfl
  · have isReply : reply = Modbus.encodeException exchange.request.code 0x01 := isException
    have refused : isRefused exchange.request reply = true := beq_iff_eq.mpr isReply
    rw [if_pos refused]
    apply keptRecord_of_short
    change reply.length < 12
    rw [isReply, Modbus.length_encodeException]
    decide

theorem filterMap_messages (exchange : Exchange) (server : Modbus.Server) :
    let reply := (answer server exchange.request).2
    (exchange.messages reply).filterMap (fun message => keptRecord message.packet) =
      exchange.records reply := by
  intro reply
  have asked := exchange.keptRecord_asked
  have answered := exchange.keptRecord_answered server
  have toLists : ∀ first second : Message,
      [first, second].filterMap (fun message => keptRecord message.packet) =
        (keptRecord first.packet).toList ++ (keptRecord second.packet).toList := by
    intro first second
    rw [List.filterMap_cons, List.filterMap_cons, List.filterMap_nil]
    cases keptRecord first.packet <;> cases keptRecord second.packet <;> rfl
  rw [messages, toLists, asked, answered, records]
  split <;> rfl

def isWrite (exchange : Exchange) : Bool :=
  (recorded 0 false exchange.request).any ParsedRecord.isWrite

/-- A write is counted twice, or once if it is refused. -/
theorem countP_records (exchange : Exchange) (server : Modbus.Server) :
    let reply := (answer server exchange.request).2
    (exchange.records reply).countP ParsedRecord.isWrite +
        (if isRefused exchange.request reply then 1 else 0) =
      2 * if exchange.isWrite then 1 else 0 := by
  intro reply
  rcases answer_cases server exchange.request with isEcho |
    ⟨⟨fn, addr, val, isModbus, isWriteFc⟩, isException⟩
  · have isReply : reply = exchange.request.frame := isEcho
    rw [isReply, records, isRefused_frame, isWrite]
    cases exchange.request with
    | modbus fn addr val => cases write : Modbus.isWriteFc fn <;> simp [recorded, write]
    | dnp3 func => rfl
    | iec104 typeId ioa =>
        by_cases untyped : typeId = 0
        · simp [recorded, untyped]
        · cases write : decide (45 ≤ typeId) && decide (typeId ≤ 50) <;>
            simp [recorded, untyped, write]
  · have refused : isRefused exchange.request reply = true := beq_iff_eq.mpr isException
    rw [records, isWrite, if_pos refused, if_pos refused, isModbus]
    simp [recorded, isWriteFc]

end Exchange

def answered (server : Modbus.Server) (exchanges : List Exchange) :
    List (Exchange × List UInt8) :=
  exchanges.zip (servers.outputs server (exchanges.map Exchange.request))

theorem answered_cons (server : Modbus.Server) (exchange : Exchange)
    (exchanges : List Exchange) :
    answered server (exchange :: exchanges) =
      (exchange, (answer server exchange.request).2) ::
        answered (answer server exchange.request).1 exchanges := rfl

/-- The messages of a session, in the order in which they are sent if there is one
exchange after another. -/
def traffic (server : Modbus.Server) (exchanges : List Exchange) : List Message :=
  (answered server exchanges).flatMap fun answered => answered.1.messages answered.2

def sessionRecords (server : Modbus.Server) (exchanges : List Exchange) :
    List ParsedRecord :=
  (answered server exchanges).flatMap fun answered => answered.1.records answered.2

def refusals (server : Modbus.Server) (exchanges : List Exchange) : Nat :=
  (answered server exchanges).countP fun answered =>
    isRefused answered.1.request answered.2

theorem filterMap_traffic (server : Modbus.Server) (exchanges : List Exchange) :
    (traffic server exchanges).filterMap (fun message => keptRecord message.packet) =
      sessionRecords server exchanges := by
  induction exchanges generalizing server with
  | nil => rfl
  | cons exchange exchanges induction =>
      have here := exchange.filterMap_messages server
      have later := induction (answer server exchange.request).1
      rw [traffic, sessionRecords] at later
      rw [traffic, sessionRecords, answered_cons, List.flatMap_cons, List.flatMap_cons,
        List.filterMap_append, here, later]

theorem countP_sessionRecords (server : Modbus.Server) (exchanges : List Exchange) :
    (sessionRecords server exchanges).countP ParsedRecord.isWrite +
        refusals server exchanges =
      2 * exchanges.countP Exchange.isWrite := by
  induction exchanges generalizing server with
  | nil => rfl
  | cons exchange exchanges induction =>
      have here := exchange.countP_records server
      have later := induction (answer server exchange.request).1
      rw [sessionRecords, refusals] at later
      rw [sessionRecords, refusals, answered_cons, List.flatMap_cons, List.countP_append,
        List.countP_cons, List.countP_cons]
      dsimp only at here ⊢
      omega

theorem map_untimed_filterMap {capture : PcapCapture} {outcomes : List CaptureOutcome}
    {yielded : List (Option Message)}
    (yields : List.Forall₂ (Yields capture) outcomes yielded) :
    (outcomes.filterMap CaptureOutcome.kept).map untimed =
      yielded.reduceOption.filterMap fun message => keptRecord message.packet := by
  induction yields with
  | nil => rfl
  | @cons outcome message outcomes yielded here _ induction =>
      have head : (message.toList.filterMap fun message => keptRecord message.packet) =
          (outcome.kept.map untimed).toList := by
        rw [here.kept]
        cases message with
        | none => rfl
        | some message =>
            rw [Option.toList_some, List.filterMap_cons, List.filterMap_nil,
              Option.bind_some]
            cases keptRecord message.packet <;> rfl
      rw [Machine.reduceOption_cons, List.filterMap_append, ← induction, head,
        List.filterMap_cons]
      cases outcome.kept <;> rfl

def oneWrite : Exchange := ⟨.modbus 6 16 1, 40000, by decide⟩

/-- The outcome of capturing a segment on Ethernet. -/
def captureAt (now : Timestamp) (segment : Segment) : CaptureOutcome :=
  .ofCall {} now ⟨1, some (segment.frame (List.replicate 14 0) [])⟩ {}

theorem yields_captureAt (now : Timestamp) {segment : Segment}
    (short : (List.replicate 14 0 ++ (segment.bytes ++ [])).length ≤ 65535) :
    Yields {} (captureAt now segment)
      (some ⟨segment.srcPort, segment.dstPort, segment.data⟩) :=
  .message rfl (segment.encapsulates_frame (.ethernet rfl rfl) short) (Nat.zero_le _)

end Prism.System

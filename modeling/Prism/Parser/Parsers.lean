import Prism.Types

/-! # Classification and parsing

The classifier, the three protocol parsers and the way `main` uses them. A
parser that gives up returns a record that `main` drops: either the default
record, whose protocol is empty, or one whose protocol is `"Unknown"`.
-/

namespace Prism.Parser

/-! ## Classification -/

inductive Proto
  | unknown
  | modbus
  | dnp3
  | iec104
  deriving DecidableEq, Repr

def classifyProtocol (packet : RawPacket) : Proto :=
  if packet.srcPort = 502 ∨ packet.dstPort = 502 then .modbus
  else if packet.srcPort = 20000 ∨ packet.dstPort = 20000 then .dnp3
  else if packet.srcPort = 2404 ∨ packet.dstPort = 2404 then .iec104
  else .unknown

/-! ## The parsers -/

namespace ModbusParser

def parse (packet : RawPacket) : ParsedRecord :=
  let record : ParsedRecord :=
    { timestamp := packet.timestamp, protocol := "Modbus" }
  if short : packet.payload.length < 12 then
    { record with protocol := "Unknown" }
  else
    let functionCode := packet.payload[7]
    { record with
      isRequest := packet.dstPort == 502
      functionCode := functionCode
      address :=
        (packet.payload[7 + 1].toUInt16 <<< 8) ||| packet.payload[7 + 2].toUInt16
      isWrite := functionCode == 5 || functionCode == 6 ||
        functionCode == 15 || functionCode == 16 }

end ModbusParser

namespace DNP3Parser

def parse (packet : RawPacket) : ParsedRecord :=
  let record : ParsedRecord :=
    { timestamp := packet.timestamp, protocol := "DNP3" }
  if packet.srcPort ≠ 20000 ∧ packet.dstPort ≠ 20000 then
    record
  else if short : packet.payload.length < 13 then
    { record with protocol := "Unknown" }
  else
    let ctrl := packet.payload[2]
    let functionCode := packet.payload[12]
    { record with
      isRequest := (ctrl &&& 0x40) != 0
      functionCode := functionCode
      isWrite := functionCode == 0x02 || functionCode == 0x05 ||
        functionCode == 0x06 || functionCode == 0x82
      address := 0 }

end DNP3Parser

namespace IEC104Parser

def parse (packet : RawPacket) : ParsedRecord :=
  if packet.srcPort ≠ 2404 ∧ packet.dstPort ≠ 2404 then
    {}
  else if short : packet.payload.length < 12 then
    {}
  else if packet.payload[0] ≠ 0x68 then
    {}
  else
    let typeId := packet.payload[6]
    let cot := packet.payload[8]
    if typeId = 0 then
      {}
    else
      { timestamp := packet.timestamp
        protocol := "IEC104"
        functionCode := typeId
        isRequest := cot == 6
        isWrite := decide (45 ≤ typeId) && decide (typeId ≤ 50)
        -- assembled in 32 bits, stored in 16
        address :=
          (packet.payload[9].toUInt32 ||| (packet.payload[10].toUInt32 <<< 8) |||
            (packet.payload[11].toUInt32 <<< 16)).toUInt16 }

end IEC104Parser

/-! ## What `main` does with a packet -/

/-- The dispatch on the protocol; `none` where `main` continues at once. -/
def parseAs : Proto → RawPacket → Option ParsedRecord
  | .unknown, _ => none
  | .modbus, packet => some (ModbusParser.parse packet)
  | .dnp3, packet => some (DNP3Parser.parse packet)
  | .iec104, packet => some (IEC104Parser.parse packet)

/-- The test after parsing. -/
def isDropped (record : ParsedRecord) : Bool :=
  record.protocol == "" || record.protocol == "Unknown"

/-! ## What the parsers accept -/

theorem ModbusParser.parse_of_short {packet : RawPacket}
    (short : packet.payload.length < 12) :
    ModbusParser.parse packet =
      { timestamp := packet.timestamp, protocol := "Unknown" } := by
  simp [ModbusParser.parse, short]

theorem DNP3Parser.parse_of_short {packet : RawPacket}
    (toPort : packet.dstPort = 20000) (short : packet.payload.length < 13) :
    DNP3Parser.parse packet =
      { timestamp := packet.timestamp, protocol := "Unknown" } := by
  simp [DNP3Parser.parse, toPort, short]

theorem ModbusParser.protocol_eq_unknown_iff (packet : RawPacket) :
    (ModbusParser.parse packet).protocol = "Unknown" ↔
      packet.payload.length < 12 := by
  by_cases short : packet.payload.length < 12
  · simp [ModbusParser.parse_of_short short, short]
  · simp [ModbusParser.parse, short]

end Prism.Parser

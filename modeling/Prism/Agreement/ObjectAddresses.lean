import Prism.Agreement.Codecs

/-! # Object addresses of IEC 60870-5-104

The protocol counts its objects with 24 bits, a record keeps 16 of them, and the
simulator's client puts its 16 bits into the upper two of the three bytes.
-/

namespace Prism.Agreement

open Prism.Parser Prism.Simulator

/-! ## What the parser makes of an address -/

/-- The three bytes of the information object address, in little-endian order. -/
def objectAddress (packet : RawPacket) : Nat :=
  (packet.payload.getD 9 0).toNat + 256 * (packet.payload.getD 10 0).toNat +
    65536 * (packet.payload.getD 11 0).toNat

def AcceptedAsIEC104 (packet : RawPacket) : Prop :=
  isDropped (IEC104Parser.parse packet) = false

/-- The layout of a packet that the parser accepts. -/
structure IEC104Layout (packet : RawPacket) : Prop where
  port : packet.srcPort = 2404 ∨ packet.dstPort = 2404
  long : 12 ≤ packet.payload.length
  start : packet.payload[0] = 0x68
  typed : packet.payload[6] ≠ 0

theorem parse_of_layout {packet : RawPacket} (layout : IEC104Layout packet) :
    IEC104Parser.parse packet =
      { timestamp := packet.timestamp
        protocol := "IEC104"
        functionCode := packet.payload.getD 6 0
        isRequest := packet.payload.getD 8 0 == 6
        isWrite := decide (45 ≤ packet.payload.getD 6 0) &&
          decide (packet.payload.getD 6 0 ≤ 50)
        address :=
          ((packet.payload.getD 9 0).toUInt32 |||
            ((packet.payload.getD 10 0).toUInt32 <<< 8) |||
            ((packet.payload.getD 11 0).toUInt32 <<< 16)).toUInt16 } := by
  have long := layout.long
  have toPort : ¬(packet.srcPort ≠ 2404 ∧ packet.dstPort ≠ 2404) := by
    rcases layout.port with src | dst
    · exact fun other => other.1 src
    · exact fun other => other.2 dst
  rw [IEC104Parser.parse, if_neg toPort, dif_neg (not_lt.mpr long),
    if_neg (not_not.mpr layout.start), if_neg layout.typed]
  simp only [List.getD_eq_getElem?_getD]
  rw [List.getElem?_eq_getElem (by omega), List.getElem?_eq_getElem (by omega),
    List.getElem?_eq_getElem (by omega), List.getElem?_eq_getElem (by omega),
    List.getElem?_eq_getElem (by omega)]
  rfl

theorem acceptedAsIEC104_iff (packet : RawPacket) :
    AcceptedAsIEC104 packet ↔ IEC104Layout packet := by
  constructor
  · intro accepted
    by_contra notLayout
    have dropped : IEC104Parser.parse packet = {} := by
      unfold IEC104Parser.parse
      by_cases otherPort : packet.srcPort ≠ 2404 ∧ packet.dstPort ≠ 2404
      · rw [if_pos otherPort]
      · by_cases short : packet.payload.length < 12
        · rw [if_neg otherPort, dif_pos short]
        · by_cases otherStart : packet.payload[0] ≠ 0x68
          · rw [if_neg otherPort, dif_neg short, if_pos otherStart]
          · by_cases untyped : packet.payload[6] = 0
            · rw [if_neg otherPort, dif_neg short, if_neg otherStart, if_pos untyped]
            · refine absurd ⟨?_, not_lt.mp short, not_not.mp otherStart, untyped⟩
                notLayout
              by_contra neither
              exact otherPort (not_or.mp neither)
    rw [AcceptedAsIEC104, dropped] at accepted
    cases accepted
  · intro layout
    rw [AcceptedAsIEC104, parse_of_layout layout]
    rfl

theorem toNat_address {packet : RawPacket} (accepted : AcceptedAsIEC104 packet) :
    (IEC104Parser.parse packet).address.toNat = objectAddress packet % 65536 := by
  rw [parse_of_layout ((acceptedAsIEC104_iff packet).mp accepted)]
  change (UInt32.toNat _) % 65536 = _
  rw [Bytes.toNat_join24]
  rfl

theorem address_toNat_eq_objectAddress_iff {packet : RawPacket}
    (accepted : AcceptedAsIEC104 packet) :
    (IEC104Parser.parse packet).address.toNat = objectAddress packet ↔
      packet.payload.getD 11 0 = 0 := by
  have lowBound := (packet.payload.getD 9 0).toNat_lt
  have middleBound := (packet.payload.getD 10 0).toNat_lt
  rw [toNat_address accepted, objectAddress, ← UInt8.toNat_inj, UInt8.toNat_zero]
  constructor
  · intro whole
    omega
  · intro zero
    omega

/-- Two accepted packets lead to different address fields exactly when their
objects differ in the two low bytes, and each field represents the whole address
exactly when the third byte is zero. -/
theorem objects_kept_apart_iff (first second : RawPacket)
    (acceptedFirst : AcceptedAsIEC104 first) (acceptedSecond : AcceptedAsIEC104 second) :
    ((IEC104Parser.parse first).address ≠ (IEC104Parser.parse second).address ↔
        objectAddress first % 65536 ≠ objectAddress second % 65536) ∧
      ((IEC104Parser.parse first).address.toNat = objectAddress first ↔
        first.payload.getD 11 0 = 0) ∧
      ((IEC104Parser.parse second).address.toNat = objectAddress second ↔
        second.payload.getD 11 0 = 0) := by
  refine ⟨?_, address_toNat_eq_objectAddress_iff acceptedFirst,
    address_toNat_eq_objectAddress_iff acceptedSecond⟩
  rw [← toNat_address acceptedFirst, ← toNat_address acceptedSecond]
  exact not_congr UInt16.toNat_inj.symm

/-- An activation of type 45 for the object with these address bytes. -/
def commandTo (low middle high : UInt8) : RawPacket where
  payload := [0x68, 0x0A, 0, 0, 0, 0, 45, 1, 6, low, middle, high]
  srcPort := 40000
  dstPort := 2404

theorem objects_kept_apart_iff_of_neighbours :
    (IEC104Parser.parse (commandTo 1 0 0)).address ≠
        (IEC104Parser.parse (commandTo 2 0 0)).address ∧
      (IEC104Parser.parse (commandTo 1 0 0)).address.toNat =
        objectAddress (commandTo 1 0 0) := by
  rcases objects_kept_apart_iff (commandTo 1 0 0) (commandTo 2 0 0) rfl rfl with
    ⟨apart, whole, -⟩
  exact ⟨apart.mpr (by decide), whole.mpr rfl⟩

/-- The objects 1 and 65537 share an address field. -/
theorem objects_merged :
    ¬∀ first second : RawPacket, AcceptedAsIEC104 first → AcceptedAsIEC104 second →
      objectAddress first ≠ objectAddress second →
        (IEC104Parser.parse first).address ≠ (IEC104Parser.parse second).address := by
  intro everywhere
  exact everywhere (commandTo 1 0 0) (commandTo 1 0 1) rfl rfl (by decide) (by decide)

/-! ## From the simulator to PRISM -/

structure Survives (typeId : UInt8) (ioa : UInt16) (record : ParsedRecord) : Prop where
  address : record.address = ioa
  functionCode : record.functionCode = typeId
  isWrite : record.isWrite = true ↔ 45 ≤ typeId ∧ typeId ≤ 50

/-- What the parser makes of a frame of the client: the dummy byte before the
address is read as its low byte, and the high byte is lost. -/
theorem parse_buildFrame {packet : RawPacket} {typeId : UInt8} {ioa : UInt16}
    (nonzero : typeId ≠ 0) (payload : packet.payload = IEC104.buildFrame typeId ioa)
    (toPort : packet.dstPort = 2404) :
    let record := IEC104Parser.parse packet
    record.address.toNat = 1 + 256 * (ioa.toNat % 256) ∧
      record.functionCode = typeId ∧
      (record.isWrite = true ↔ 45 ≤ typeId ∧ typeId ≤ 50) := by
  intro record
  have layout : IEC104Layout packet := by
    refine ⟨.inr toPort, ?_, ?_, ?_⟩
    · simp [payload, IEC104.buildFrame, zeroFrame]
    · simp [payload, IEC104.buildFrame, zeroFrame]
    · simp [payload, IEC104.buildFrame, zeroFrame, nonzero]
  have accepted := (acceptedAsIEC104_iff packet).mpr layout
  refine ⟨?_, ?_, ?_⟩
  · rw [toNat_address accepted, objectAddress, payload]
    simp only [IEC104.buildFrame, zeroFrame, Bytes.toUInt8_and_mask]
    change (1 + 256 * (ioa.toNat % 256) + 65536 * _) % 65536 = _
    omega
  · simp [record, parse_of_layout layout, payload, IEC104.buildFrame, zeroFrame]
  · simp [record, parse_of_layout layout, payload, IEC104.buildFrame, zeroFrame]

/-- Type and class of every request survive; its object address does exactly if
it is 257, the only one that shifting it by a byte behind the dummy keeps. -/
theorem ioa_survives_iff (packet : RawPacket) (typeId : UInt8) (ioa : UInt16)
    (nonzero : typeId ≠ 0) (payload : packet.payload = IEC104.buildFrame typeId ioa)
    (toPort : packet.dstPort = 2404) :
    Survives typeId ioa (IEC104Parser.parse packet) ↔ ioa = 257 := by
  rcases parse_buildFrame nonzero payload toPort with ⟨address, sameCode, sameClass⟩
  have bound : ioa.toNat < 2 ^ 16 := ioa.toNat_lt
  constructor
  · intro survives
    rw [survives.address] at address
    apply UInt16.toNat_inj.mp
    change ioa.toNat = 257
    omega
  · intro same
    refine ⟨?_, sameCode, sameClass⟩
    apply UInt16.toNat_inj.mp
    rw [address, same]
    rfl

def requestTo (typeId : UInt8) (ioa : UInt16) : RawPacket where
  payload := IEC104.buildFrame typeId ioa
  srcPort := 40000
  dstPort := 2404

theorem ioa_survives_iff_at_257 :
    Survives 45 257 (IEC104Parser.parse (requestTo 45 257)) :=
  (ioa_survives_iff (requestTo 45 257) 45 257 (by decide) rfl rfl).mpr rfl

/-- The address the client always uses, 16, arrives as 4097. -/
theorem sixteen_does_not_survive :
    ¬∀ (packet : RawPacket) (typeId : UInt8) (ioa : UInt16), typeId ≠ 0 →
      packet.payload = IEC104.buildFrame typeId ioa → packet.dstPort = 2404 →
        Survives typeId ioa (IEC104Parser.parse packet) := by
  intro everywhere
  have survives := everywhere (requestTo 45 16) 45 16 (by decide) rfl rfl
  exact absurd survives.address (by decide)

end Prism.Agreement

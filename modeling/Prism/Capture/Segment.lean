import Prism.Capture.Pcap
import Prism.Foundation.Bytes

/-! # Captured segments

What `nextPacket` hands over of a frame that carries a proper TCP segment. The
payload is taken up to the end of the frame, not up to the end of the IP packet.
-/

namespace Prism.Capture.PcapCapture

/-! ## Frames with a TCP segment -/

/-- The total length the IP header states. -/
def ipLen (linktype : Int) (frame : Frame) : Nat :=
  256 * (frame.memory (l2 linktype + 2)).toNat +
    (frame.memory (l2 linktype + 3)).toNat

def l4 (linktype : Int) (frame : Frame) : Nat :=
  l2 linktype + (ihl linktype frame).toNat

/-- A whole Ethernet frame with an unfragmented TCP/IPv4 packet whose stated
lengths agree with each other and with the frame. Bytes may follow the packet. -/
structure CarriesSegment (linktype : Int) (frame : Frame) : Prop where
  ethernet : linktype = DLT_EN10MB
  etherType : frame.memory 12 = 0x08 ∧ frame.memory 13 = 0x00
  version : ipV linktype frame = 4
  headerLong : 20 ≤ ihl linktype frame
  unfragmented : frame.memory (l2 linktype + 6) &&& 0x3F = 0 ∧
    frame.memory (l2 linktype + 7) = 0
  protocol : ipP linktype frame = IPPROTO_TCP
  segmentLong : 20 ≤ tcpHl frame (l4 linktype frame)
  consistent : (ihl linktype frame).toNat + (tcpHl frame (l4 linktype frame)).toNat ≤
    ipLen linktype frame
  fits : l2 linktype + ipLen linktype frame ≤ frame.len.toNat
  captured : frame.len.toNat ≤ 65535

/-- The number of bytes that follow the IP packet in its frame. -/
def trailing (linktype : Int) (frame : Frame) : Nat :=
  frame.len.toNat - (l2 linktype + ipLen linktype frame)

/-- The bytes after the TCP header that belong to the IP packet. -/
def segmentData (linktype : Int) (frame : Frame) : List UInt8 :=
  let tcpHl := (tcpHl frame (l4 linktype frame)).toNat
  (List.range' (l4 linktype frame + tcpHl)
    (ipLen linktype frame - (ihl linktype frame).toNat - tcpHl)).map frame.memory

def segmentPort (linktype : Int) (frame : Frame) (offset : Nat) : Nat :=
  256 * (frame.memory (l4 linktype frame + offset)).toNat +
    (frame.memory (l4 linktype frame + offset + 1)).toNat

/-! ## What is handed over -/

variable {capture : PcapCapture} {answer : NextEx} {frame : Frame}

theorem CarriesSegment.acceptsHeader {linktype : Int}
    (carries : CarriesSegment linktype frame) : AcceptsHeader linktype frame := by
  have headerLong : 20 ≤ (ihl linktype frame).toNat :=
    UInt8.le_iff_toNat_le.mp carries.headerLong
  have consistent := carries.consistent
  have fits := carries.fits
  exact ⟨by omega, carries.version, carries.headerLong, by omega⟩

theorem nextPacket_of_carriesSegment (isHanded : capture.handed answer = some frame)
    (carries : CarriesSegment capture.linktype frame) (now : Timestamp)
    (packet : RawPacket) :
    let start := l4 capture.linktype frame
    let pdu := start + (tcpHl frame start).toNat
    (capture.nextPacket now answer packet).value =
      (true,
        { timestamp := now
          srcIp := ipAddress frame (l2 capture.linktype + 12)
          dstIp := ipAddress frame (l2 capture.linktype + 16)
          srcPort := ((frame.memory start).toUInt16 <<< 8) |||
            (frame.memory (start + 1)).toUInt16
          dstPort := ((frame.memory (start + 2)).toUInt16 <<< 8) |||
            (frame.memory (start + 3)).toUInt16
          payload :=
            (List.range' pdu (frame.len.toNat - pdu)).map frame.memory }) := by
  intro start pdu
  have segmentLong : 20 ≤ (tcpHl frame start).toNat :=
    UInt8.le_iff_toNat_le.mp carries.segmentLong
  have consistent := carries.consistent
  have fits := carries.fits
  have isStart : start = l2 capture.linktype + (ihl capture.linktype frame).toNat := rfl
  have long : start + (tcpHl frame start).toNat ≤ frame.len.toNat := by
    change (ihl _ _).toNat + (tcpHl frame start).toNat ≤ _ at consistent
    omega
  have tcp : ipP capture.linktype frame = IPPROTO_TCP ∧
      start + 20 ≤ frame.len.toNat := ⟨carries.protocol, by omega⟩
  have passes : ¬(tcpHl frame start < 20 ∨
      frame.len.toNat < start + (tcpHl frame start).toNat) :=
    not_or.mpr ⟨UInt8.not_lt.mpr carries.segmentLong, not_lt.mpr long⟩
  simp only [tcpHl] at passes
  rw [nextPacket_of_handed isHanded,
    (dissect_of_accepts carries.acceptsHeader now packet).1, ← isStart]
  unfold dissectL4
  rw [if_pos tcp, Reading.value_byte_bind, if_neg passes]
  rfl

theorem map_range'_eq_iff (memory : Nat → α) (first count count' : Nat) :
    (List.range' first count).map memory = (List.range' first count').map memory ↔
      count = count' := by
  constructor
  · intro equal
    simpa using congrArg List.length equal
  · rintro rfl
    rfl

/-- If the frame is handed over at all, then with the data and the ports of its
segment. -/
def HandsOverSegment (linktype : Int) (frame : Frame) (result : Bool × RawPacket) :
    Prop :=
  result.1 = true →
    result.2.payload = segmentData linktype frame ∧
      result.2.srcPort.toNat = segmentPort linktype frame 0 ∧
      result.2.dstPort.toNat = segmentPort linktype frame 2

/-- The payload is exactly the segment's data if and only if nothing follows the
IP packet in its frame. -/
theorem hands_over_segment_iff (capture : PcapCapture) (now : Timestamp)
    (answer : NextEx) (packet : RawPacket) (frame : Frame)
    (isHanded : capture.handed answer = some frame)
    (carries : CarriesSegment capture.linktype frame) :
    HandsOverSegment capture.linktype frame
        (capture.nextPacket now answer packet).value ↔
      trailing capture.linktype frame = 0 := by
  have consistent := carries.consistent
  have fits := carries.fits
  have isStart : l4 capture.linktype frame =
    l2 capture.linktype + (ihl capture.linktype frame).toNat := rfl
  rw [nextPacket_of_carriesSegment isHanded carries]
  unfold HandsOverSegment segmentData
  simp only [forall_const, Bytes.toNat_join, map_range'_eq_iff, segmentPort,
    Nat.add_zero, Nat.add_assoc, Nat.reduceAdd, and_true, trailing]
  omega

/-- An acknowledgement without data to port 502, in a frame of the given length. -/
def acknowledgement (len : UInt32) : Frame where
  len := len
  memory
    | 12 => 0x08
    | 14 => 0x45
    | 17 => 40
    | 23 => 6
    | 34 => 0x9C
    | 35 => 0x40
    | 36 => 0x01
    | 37 => 0xF6
    | 46 => 0x50
    | _ => 0

theorem hands_over_segment_iff_of_unpadded :
    HandsOverSegment DLT_EN10MB (acknowledgement 54)
      (nextPacket {} 0 ⟨1, some (acknowledgement 54)⟩ {}).value :=
  (hands_over_segment_iff {} 0 ⟨1, some (acknowledgement 54)⟩ {} (acknowledgement 54) rfl
    ⟨rfl, by decide, by decide, by decide, by decide, by decide, by decide, by decide,
      by decide, by decide⟩).mpr (by decide)

/-- The padding of a frame of minimal length is handed over as payload. -/
theorem padding_handed_over :
    ¬∀ (capture : PcapCapture) (now : Timestamp) (answer : NextEx) (packet : RawPacket)
      (frame : Frame), capture.handed answer = some frame →
        CarriesSegment capture.linktype frame →
          HandsOverSegment capture.linktype frame
            (capture.nextPacket now answer packet).value := by
  intro everywhere
  have carries : CarriesSegment DLT_EN10MB (acknowledgement 60) :=
    ⟨rfl, by decide, by decide, by decide, by decide, by decide, by decide, by decide,
      by decide, by decide⟩
  have handsOver := everywhere {} 0 ⟨1, some (acknowledgement 60)⟩ {}
    (acknowledgement 60) rfl carries
  rw [nextPacket_of_carriesSegment rfl carries] at handsOver
  exact absurd (handsOver rfl).1 (by decide)

end Prism.Capture.PcapCapture

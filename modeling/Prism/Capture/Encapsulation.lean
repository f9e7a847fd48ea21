import Prism.Capture.Segment
import Prism.Foundation.Memory

/-! # Encapsulation

How a TCP segment travels: behind its TCP header, an IPv4 header and the header of the
link, and in front of what the link pads it with. `nextPacket` undoes all of it but the
padding.
-/

namespace Prism.Capture

/-! ## Headers -/

/-- Four bytes: an address or a number of 32 bits. -/
structure Quad where
  first : UInt8
  second : UInt8
  third : UInt8
  fourth : UInt8
  deriving DecidableEq, Repr

def Quad.bytes (quad : Quad) : List UInt8 :=
  [quad.first, quad.second, quad.third, quad.fourth]

/-- The options of a header: at most ten words of 32 bits. -/
structure HeaderOptions where
  words : Fin 11
  bytes : List UInt8
  length_bytes : bytes.length = 4 * words.val

namespace HeaderOptions

/-- The header length in words, as the IP header states it behind its version. -/
def versionAndIhl (options : HeaderOptions) : UInt8 :=
  0x40 ||| UInt8.ofNat (5 + options.words.val)

/-- The header length in words, as the TCP header states it. -/
def dataOffset (options : HeaderOptions) : UInt8 :=
  UInt8.ofNat (5 + options.words.val) <<< 4

theorem version_eq (options : HeaderOptions) : options.versionAndIhl >>> 4 = 4 := by
  have all : ∀ words : Fin 11, (0x40 ||| UInt8.ofNat (5 + words.val)) >>> 4 = 4 := by
    decide
  exact all options.words

theorem toNat_ihl (options : HeaderOptions) :
    ((options.versionAndIhl &&& 0x0F) * 4).toNat = 20 + options.bytes.length := by
  have all : ∀ words : Fin 11,
      (((0x40 ||| UInt8.ofNat (5 + words.val)) &&& 0x0F) * 4).toNat =
        20 + 4 * words.val := by
    decide
  rw [options.length_bytes]
  exact all options.words

theorem toNat_dataOffset (options : HeaderOptions) :
    (((options.dataOffset &&& 0xF0) >>> 4) * 4).toNat = 20 + options.bytes.length := by
  have all : ∀ words : Fin 11,
      (((UInt8.ofNat (5 + words.val) <<< 4 &&& 0xF0) >>> 4) * 4).toNat =
        20 + 4 * words.val := by
    decide
  rw [options.length_bytes]
  exact all options.words

end HeaderOptions

/-! ## Segments -/

/-- An unfragmented TCP segment over IPv4, with the fields of its headers. -/
structure Segment where
  typeOfService : UInt8
  identification : UInt16
  dontFragment : Bool
  timeToLive : UInt8
  ipChecksum : UInt16
  src : Quad
  dst : Quad
  ipOptions : HeaderOptions
  srcPort : UInt16
  dstPort : UInt16
  sequence : Quad
  acknowledgement : Quad
  flags : UInt8
  window : UInt16
  tcpChecksum : UInt16
  urgent : UInt16
  tcpOptions : HeaderOptions
  data : List UInt8

namespace Segment

def totalLength (segment : Segment) : Nat :=
  20 + segment.ipOptions.bytes.length + (20 + segment.tcpOptions.bytes.length) +
    segment.data.length

/-- The IP header without its options. -/
def ipFields (segment : Segment) : List UInt8 :=
  let length := UInt16.ofNat segment.totalLength
  [segment.ipOptions.versionAndIhl, segment.typeOfService,
   (length >>> 8).toUInt8, length.toUInt8,
   (segment.identification >>> 8).toUInt8, segment.identification.toUInt8,
   if segment.dontFragment then 0x40 else 0x00, 0x00,
   segment.timeToLive, IPPROTO_TCP,
   (segment.ipChecksum >>> 8).toUInt8, segment.ipChecksum.toUInt8] ++
    (segment.src.bytes ++ segment.dst.bytes)

def ipHeader (segment : Segment) : List UInt8 :=
  segment.ipFields ++ segment.ipOptions.bytes

/-- The TCP header without its options. -/
def tcpFields (segment : Segment) : List UInt8 :=
  [(segment.srcPort >>> 8).toUInt8, segment.srcPort.toUInt8,
   (segment.dstPort >>> 8).toUInt8, segment.dstPort.toUInt8] ++
    (segment.sequence.bytes ++ (segment.acknowledgement.bytes ++
      [segment.tcpOptions.dataOffset, segment.flags,
       (segment.window >>> 8).toUInt8, segment.window.toUInt8,
       (segment.tcpChecksum >>> 8).toUInt8, segment.tcpChecksum.toUInt8,
       (segment.urgent >>> 8).toUInt8, segment.urgent.toUInt8]))

def tcpHeader (segment : Segment) : List UInt8 :=
  segment.tcpFields ++ segment.tcpOptions.bytes

def bytes (segment : Segment) : List UInt8 :=
  segment.ipHeader ++ (segment.tcpHeader ++ segment.data)

@[simp] theorem length_ipFields (segment : Segment) : segment.ipFields.length = 20 := rfl

@[simp] theorem length_tcpFields (segment : Segment) : segment.tcpFields.length = 20 := rfl

@[simp] theorem length_ipHeader (segment : Segment) :
    segment.ipHeader.length = 20 + segment.ipOptions.bytes.length := by
  rw [ipHeader, List.length_append, length_ipFields]

@[simp] theorem length_tcpHeader (segment : Segment) :
    segment.tcpHeader.length = 20 + segment.tcpOptions.bytes.length := by
  rw [tcpHeader, List.length_append, length_tcpFields]

theorem length_bytes (segment : Segment) : segment.bytes.length = segment.totalLength := by
  simp [bytes, totalLength, Nat.add_assoc]

end Segment

/-! ## Frames -/

/-- What a link puts in front of an IP packet: four bytes on the system's loopback,
fourteen on an Ethernet, nothing on the links that carry bare IP packets. -/
inductive IsLinkHeader (linktype : Int) (header : List UInt8) : Prop
  | null (isNull : linktype = DLT_NULL) (length : header.length = 4)
  | ethernet (isEthernet : linktype = DLT_EN10MB) (length : header.length = 14)
  | bare (notNull : linktype ≠ DLT_NULL) (notEthernet : linktype ≠ DLT_EN10MB)
      (empty : header = [])

theorem IsLinkHeader.length_eq {linktype : Int} {header : List UInt8}
    (isHeader : IsLinkHeader linktype header) :
    header.length = PcapCapture.l2 linktype := by
  cases isHeader with
  | null isNull length =>
      rw [length, isNull]
      rfl
  | ethernet isEthernet length =>
      rw [length, isEthernet]
      rfl
  | bare notNull notEthernet empty =>
      rw [empty, PcapCapture.l2, if_neg notNull, if_neg notEthernet]
      rfl

/-- The frame is made of a header of the link, the segment, and padding, and was
captured whole. What its memory holds behind it is left open. -/
structure Encapsulates (linktype : Int) (frame : Frame) (segment : Segment)
    (padding : List UInt8) : Prop where
  holds : ∃ header, IsLinkHeader linktype header ∧
    HoldsAt frame.memory 0 (header ++ (segment.bytes ++ padding)) ∧
    frame.len.toNat = (header ++ (segment.bytes ++ padding)).length
  whole : frame.caplen = frame.len.toNat

/-- The frame with nothing behind it in memory but zeros. -/
def Segment.frame (segment : Segment) (header padding : List UInt8) : Frame where
  len := UInt32.ofNat (header ++ (segment.bytes ++ padding)).length
  memory index := (header ++ (segment.bytes ++ padding)).getD index 0

theorem Segment.encapsulates_frame {linktype : Int} (segment : Segment)
    {header padding : List UInt8} (isHeader : IsLinkHeader linktype header)
    (short : (header ++ (segment.bytes ++ padding)).length ≤ 65535) :
    Encapsulates linktype (segment.frame header padding) segment padding := by
  have isLength : (segment.frame header padding).len.toNat =
      (header ++ (segment.bytes ++ padding)).length :=
    Nat.mod_eq_of_lt (by omega)
  refine ⟨⟨header, isHeader, HoldsAt.getD _ 0, isLength⟩, ?_⟩
  rw [Frame.caplen, isLength]
  exact Nat.min_eq_left short

/-- The packet that carries the segment, with what follows it in its frame. -/
def Segment.packet (segment : Segment) (now : Timestamp) (padding : List UInt8) :
    RawPacket where
  timestamp := now
  payload := segment.data ++ padding
  srcIp := inetNtop segment.src.bytes
  dstIp := inetNtop segment.dst.bytes
  srcPort := segment.srcPort
  dstPort := segment.dstPort

namespace Encapsulates

variable {linktype : Int} {frame : Frame} {segment : Segment} {padding : List UInt8}

theorem length (encapsulates : Encapsulates linktype frame segment padding) :
    frame.len.toNat =
      PcapCapture.l2 linktype + segment.bytes.length + padding.length := by
  rcases encapsulates.holds with ⟨header, isHeader, _, length⟩
  rw [length, List.length_append, List.length_append, isHeader.length_eq, Nat.add_assoc]

theorem holdsPacket (encapsulates : Encapsulates linktype frame segment padding) :
    HoldsAt frame.memory (PcapCapture.l2 linktype) (segment.bytes ++ padding) := by
  rcases encapsulates.holds with ⟨header, isHeader, holds, _⟩
  have afterHeader := holds.right
  rw [isHeader.length_eq, Nat.zero_add] at afterHeader
  exact afterHeader

theorem holdsIpHeader (encapsulates : Encapsulates linktype frame segment padding) :
    HoldsAt frame.memory (PcapCapture.l2 linktype) segment.ipHeader :=
  encapsulates.holdsPacket.left.left

theorem holdsTcpHeader (encapsulates : Encapsulates linktype frame segment padding) :
    HoldsAt frame.memory
      (PcapCapture.l2 linktype + (20 + segment.ipOptions.bytes.length))
      segment.tcpHeader := by
  have afterIp := encapsulates.holdsPacket.left.right
  rw [Segment.length_ipHeader] at afterIp
  exact afterIp.left

theorem holdsPayload (encapsulates : Encapsulates linktype frame segment padding) :
    HoldsAt frame.memory
      (PcapCapture.l2 linktype + (20 + segment.ipOptions.bytes.length) +
        (20 + segment.tcpOptions.bytes.length))
      (segment.data ++ padding) := by
  have holds := encapsulates.holdsPacket
  rw [Segment.bytes, List.append_assoc, List.append_assoc] at holds
  have afterTcp := holds.right.right
  rw [Segment.length_ipHeader, Segment.length_tcpHeader] at afterTcp
  exact afterTcp

theorem ipField (encapsulates : Encapsulates linktype frame segment padding)
    (index : Nat) (inside : index < 20) :
    frame.memory (PcapCapture.l2 linktype + index) = segment.ipFields[index] :=
  encapsulates.holdsIpHeader.left.getElem index inside

theorem version (encapsulates : Encapsulates linktype frame segment padding) :
    PcapCapture.ipV linktype frame = 4 := by
  have first := encapsulates.ipField 0 (by decide)
  rw [Nat.add_zero] at first
  rw [PcapCapture.ipV, first]
  exact segment.ipOptions.version_eq

theorem toNat_ihl (encapsulates : Encapsulates linktype frame segment padding) :
    (PcapCapture.ihl linktype frame).toNat = 20 + segment.ipOptions.bytes.length := by
  have first := encapsulates.ipField 0 (by decide)
  rw [Nat.add_zero] at first
  rw [PcapCapture.ihl, first]
  exact segment.ipOptions.toNat_ihl

theorem src (encapsulates : Encapsulates linktype frame segment padding) :
    PcapCapture.ipAddress frame (PcapCapture.l2 linktype + 12) =
      inetNtop segment.src.bytes :=
  congrArg inetNtop encapsulates.holdsIpHeader.left.right.left

theorem dst (encapsulates : Encapsulates linktype frame segment padding) :
    PcapCapture.ipAddress frame (PcapCapture.l2 linktype + 16) =
      inetNtop segment.dst.bytes :=
  congrArg inetNtop encapsulates.holdsIpHeader.left.right.right

theorem acceptsHeader (encapsulates : Encapsulates linktype frame segment padding) :
    PcapCapture.AcceptsHeader linktype frame := by
  have length := encapsulates.length
  have isTotal := segment.length_bytes
  have isIhl := encapsulates.toNat_ihl
  rw [Segment.totalLength] at isTotal
  exact
    { long := by omega
      version := encapsulates.version
      headerLong := by
        rw [UInt8.le_iff_toNat_le, isIhl]
        exact Nat.le_add_right _ _
      headerFits := by omega }

theorem l4_eq (encapsulates : Encapsulates linktype frame segment padding) :
    PcapCapture.l4 linktype frame =
      PcapCapture.l2 linktype + (20 + segment.ipOptions.bytes.length) := by
  rw [PcapCapture.l4, encapsulates.toNat_ihl]

theorem tcpField (encapsulates : Encapsulates linktype frame segment padding)
    (index : Nat) (inside : index < 20) :
    frame.memory (PcapCapture.l4 linktype frame + index) = segment.tcpFields[index] := by
  rw [encapsulates.l4_eq]
  exact encapsulates.holdsTcpHeader.left.getElem index inside

theorem toNat_tcpHl (encapsulates : Encapsulates linktype frame segment padding) :
    (PcapCapture.tcpHl frame (PcapCapture.l4 linktype frame)).toNat =
      20 + segment.tcpOptions.bytes.length := by
  have offset := encapsulates.tcpField 12 (by decide)
  rw [PcapCapture.tcpHl, offset]
  exact segment.tcpOptions.toNat_dataOffset

theorem dissectL4 (encapsulates : Encapsulates linktype frame segment padding)
    (packet : RawPacket) :
    (PcapCapture.dissectL4 frame (PcapCapture.l4 linktype frame)
      (PcapCapture.ipP linktype frame) packet).value =
        (true, { packet with
          srcPort := segment.srcPort
          dstPort := segment.dstPort
          payload := segment.data ++ padding }) := by
  have length := encapsulates.length
  have isTotal := segment.length_bytes
  have isTcpHl := encapsulates.toNat_tcpHl
  have isL4 := encapsulates.l4_eq
  rw [Segment.totalLength] at isTotal
  have tcp : PcapCapture.ipP linktype frame = IPPROTO_TCP ∧
      PcapCapture.l4 linktype frame + 20 ≤ frame.len.toNat :=
    ⟨encapsulates.ipField 9 (by decide), by omega⟩
  have passes : ¬(PcapCapture.tcpHl frame (PcapCapture.l4 linktype frame) < 20 ∨
      frame.len.toNat < PcapCapture.l4 linktype frame +
        (PcapCapture.tcpHl frame (PcapCapture.l4 linktype frame)).toNat) := by
    rw [UInt8.lt_iff_toNat_lt, isTcpHl]
    change ¬(20 + _ < 20 ∨ _)
    omega
  have src0 := encapsulates.tcpField 0 (by decide)
  have src1 := encapsulates.tcpField 1 (by decide)
  have dst0 := encapsulates.tcpField 2 (by decide)
  have dst1 := encapsulates.tcpField 3 (by decide)
  have payload := encapsulates.holdsPayload
  rw [Nat.add_zero] at src0
  rw [← isL4, ← isTcpHl] at payload
  have toEnd : (segment.data ++ padding).length = frame.len.toNat -
      (PcapCapture.l4 linktype frame +
        (PcapCapture.tcpHl frame (PcapCapture.l4 linktype frame)).toNat) := by
    rw [List.length_append]
    omega
  simp only [PcapCapture.tcpHl] at passes payload toEnd
  unfold PcapCapture.dissectL4
  rw [if_pos tcp, Reading.value_byte_bind, if_neg passes]
  simp only [Reading.value_bind, Reading.value_byte, Reading.value_range,
    Reading.value_pure, payload.map_range' toEnd, src0, src1, dst0, dst1]
  have srcPort : segment.tcpFields[0].toUInt16 <<< 8 ||| segment.tcpFields[1].toUInt16 =
      segment.srcPort := Bytes.join_split segment.srcPort
  have dstPort : segment.tcpFields[2].toUInt16 <<< 8 ||| segment.tcpFields[3].toUInt16 =
      segment.dstPort := Bytes.join_split segment.dstPort
  rw [srcPort, dstPort]

end Encapsulates

/-! ## The round trip -/

/-- `nextPacket` undoes the encapsulation of a segment in a frame that is captured
whole, on every link whose header it knows the length of and whatever the other fields
and the options are: it hands over the ports, the addresses and the data, with the
padding of the frame behind it, and reads nothing but the frame. -/
theorem nextPacket_encapsulated (capture : PcapCapture) (now : Timestamp)
    (answer : NextEx) (frame : Frame) (segment : Segment) (padding : List UInt8)
    (packet : RawPacket) (isHanded : capture.handed answer = some frame)
    (encapsulates : Encapsulates capture.linktype frame segment padding) :
    (capture.nextPacket now answer packet).value =
        (true, segment.packet now padding) ∧
      Reading.Within frame.caplen (capture.nextPacket now answer packet) := by
  rw [PcapCapture.nextPacket_of_handed isHanded]
  constructor
  · rw [(PcapCapture.dissect_of_accepts encapsulates.acceptsHeader now packet).1]
    change (PcapCapture.dissectL4 frame (PcapCapture.l4 capture.linktype frame)
      _ _).value = _
    rw [encapsulates.dissectL4, encapsulates.src, encapsulates.dst]
    rfl
  · rw [PcapCapture.within_dissect_iff, ← encapsulates.whole]
    exact .inl (Nat.min_le_right _ _)

def noOptions : HeaderOptions := ⟨0, [], rfl⟩

/-- A segment from 10.0.0.2 to 10.0.0.1, with the options of a usual TCP connection. -/
def segmentTo (port : UInt16) (data : List UInt8) : Segment where
  typeOfService := 0
  identification := 1
  dontFragment := true
  timeToLive := 64
  ipChecksum := 0
  src := ⟨10, 0, 0, 2⟩
  dst := ⟨10, 0, 0, 1⟩
  ipOptions := noOptions
  srcPort := 40000
  dstPort := port
  sequence := ⟨0, 0, 0, 1⟩
  acknowledgement := ⟨0, 0, 0, 1⟩
  flags := 0x18
  window := 512
  tcpChecksum := 0
  urgent := 0
  tcpOptions := ⟨3, [1, 1, 8, 10, 0, 0, 0, 1, 0, 0, 0, 1], rfl⟩
  data := data

theorem nextPacket_encapsulated_write :
    let write : List UInt8 := [0, 1, 0, 0, 0, 6, 1, 6, 0, 16, 0, 1]
    let segment := segmentTo 502 write
    (PcapCapture.nextPacket {} 7
      ⟨1, some (segment.frame (List.replicate 14 0) [])⟩ {}).value =
        (true, segment.packet 7 []) := by
  intro write segment
  exact (nextPacket_encapsulated {} 7 _ (segment.frame (List.replicate 14 0) []) segment
    [] {} rfl (segment.encapsulates_frame (.ethernet rfl rfl) (by decide))).1

end Prism.Capture

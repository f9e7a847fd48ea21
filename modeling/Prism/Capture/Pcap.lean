import Prism.Foundation.Reading
import Prism.Types

/-! # Packet capture

`PcapCapture::nextPacket`: from what libpcap hands over to a `RawPacket`.
-/

namespace Prism.Capture

/-! ## What libpcap hands over -/

/-- A frame: its length on the wire, and the memory from `data` on, of which only
the first `caplen` bytes belong to the frame. -/
structure Frame where
  len : UInt32
  memory : Nat → UInt8

/-- The snapshot length the constructor asks for is 65535. -/
def Frame.caplen (frame : Frame) : Nat := min frame.len.toNat 65535

/-- The result of `pcap_next_ex`, with header and data if it set them. -/
structure NextEx where
  res : Int
  frame : Option Frame

def DLT_NULL : Int := 0

def DLT_EN10MB : Int := 1

def IPPROTO_TCP : UInt8 := 6

def inetNtop (bytes : List UInt8) : String :=
  ".".intercalate (bytes.map fun byte => toString byte.toNat)

/-! ## The capture -/

structure PcapCapture where
  handle : Bool := true
  active : Bool := true
  linktype : Int := DLT_EN10MB
  deriving DecidableEq, Repr

namespace PcapCapture

def l2 (linktype : Int) : Nat :=
  if linktype = DLT_NULL then 4
  else if linktype = DLT_EN10MB then 14
  else 0

/-- The ports and the payload, from the start of the transport header on. -/
def dissectL4 (frame : Frame) (l4 : Nat) (proto : UInt8) (packet : RawPacket) :
    Reading (Bool × RawPacket) := do
  let packet := { packet with
    srcPort := 0
    dstPort := 0 }
  if proto = IPPROTO_TCP ∧ l4 + 20 ≤ frame.len.toNat then
    let offset ← Reading.byte frame.memory (l4 + 12)
    let tcpHl := ((offset &&& 0xF0) >>> 4) * 4
    if tcpHl < 20 ∨ frame.len.toNat < l4 + tcpHl.toNat then
      return (false, packet)
    let src0 ← Reading.byte frame.memory l4
    let src1 ← Reading.byte frame.memory (l4 + 1)
    let dst0 ← Reading.byte frame.memory (l4 + 2)
    let dst1 ← Reading.byte frame.memory (l4 + 3)
    let pdu := l4 + tcpHl.toNat
    let payload ← Reading.range frame.memory pdu frame.len.toNat
    return (true, { packet with
      srcPort := (src0.toUInt16 <<< 8) ||| src1.toUInt16
      dstPort := (dst0.toUInt16 <<< 8) ||| dst1.toUInt16
      payload := payload })
  else
    let payload ← Reading.range frame.memory l4 frame.len.toNat
    return (true, { packet with payload := payload })

/-- What follows a successful `pcap_next_ex`: the result, and the caller's packet
as far as it has been overwritten. -/
def dissect (linktype : Int) (now : Timestamp) (frame : Frame) (packet : RawPacket) :
    Reading (Bool × RawPacket) := do
  let l2 := l2 linktype
  if frame.len.toNat < l2 + 20 then
    return (false, packet)
  let versionAndIhl ← Reading.byte frame.memory l2
  if versionAndIhl >>> 4 ≠ 4 then
    return (false, packet)
  let ihl := (versionAndIhl &&& 0x0F) * 4
  if ihl < 20 ∨ frame.len.toNat < l2 + ihl.toNat then
    return (false, packet)
  let src ← Reading.range frame.memory (l2 + 12) (l2 + 12 + 4)
  let dst ← Reading.range frame.memory (l2 + 16) (l2 + 16 + 4)
  let packet := { packet with
    timestamp := now
    srcIp := inetNtop src
    dstIp := inetNtop dst }
  let proto ← Reading.byte frame.memory (l2 + 9)
  dissectL4 frame (l2 + ihl.toNat) proto packet

def nextPacket (capture : PcapCapture) (now : Timestamp) (answer : NextEx)
    (packet : RawPacket) : Reading (Bool × RawPacket) :=
  if !capture.handle || !capture.active then
    return (false, packet)
  else if answer.res = 0 then
    return (false, packet)
  else
    match answer.res, answer.frame with
    | 1, some frame => dissect capture.linktype now frame packet
    | _, _ => return (false, packet)

/-! ## The header fields it looks at -/

def ipV (linktype : Int) (frame : Frame) : UInt8 :=
  frame.memory (l2 linktype) >>> 4

/-- The IP header length of the frame, in bytes. -/
def ihl (linktype : Int) (frame : Frame) : UInt8 :=
  (frame.memory (l2 linktype) &&& 0x0F) * 4

def ipP (linktype : Int) (frame : Frame) : UInt8 :=
  frame.memory (l2 linktype + 9)

def ipAddress (frame : Frame) (first : Nat) : String :=
  inetNtop ((List.range' first 4).map frame.memory)

/-- The TCP header length a segment at `l4` states, in bytes. -/
def tcpHl (frame : Frame) (l4 : Nat) : UInt8 :=
  ((frame.memory (l4 + 12) &&& 0xF0) >>> 4) * 4

theorem l2_le (linktype : Int) : l2 linktype ≤ 14 := by
  unfold l2
  split
  · decide
  · split <;> decide

theorem toNat_ihl_le (linktype : Int) (frame : Frame) :
    (ihl linktype frame).toNat ≤ 60 := by
  have nibble : (frame.memory (l2 linktype)).toNat &&& 15 ≤ 15 := Nat.and_le_right
  simp only [ihl, UInt8.toNat_mul, UInt8.toNat_and, UInt8.reduceToNat]
  omega

theorem toNat_tcpHl_le (frame : Frame) (l4 : Nat) : (tcpHl frame l4).toNat ≤ 60 := by
  have nibble : (frame.memory (l4 + 12)).toNat &&& 240 ≤ 240 := Nat.and_le_right
  simp only [tcpHl, UInt8.toNat_mul, UInt8.toNat_shiftRight, UInt8.toNat_and,
    UInt8.reduceToNat, Nat.shiftRight_eq_div_pow, Nat.reduceMod, Nat.reducePow]
  omega

theorem within_dissectL4_iff (frame : Frame) {l4 : Nat} (proto : UInt8)
    (packet : RawPacket) (near : l4 + 60 < 65535) (started : l4 ≤ frame.len.toNat) :
    Reading.Within frame.caplen (dissectL4 frame l4 proto packet) ↔
      frame.len.toNat ≤ 65535 ∨ proto = IPPROTO_TCP ∧ tcpHl frame l4 < 20 := by
  have tcpHlShort := toNat_tcpHl_le frame l4
  have twenty : tcpHl frame l4 < 20 ↔ (tcpHl frame l4).toNat < 20 :=
    UInt8.lt_iff_toNat_lt
  unfold dissectL4 Frame.caplen
  by_cases tcp : proto = IPPROTO_TCP ∧ l4 + 20 ≤ frame.len.toNat
  · rw [if_pos tcp, Reading.within_byte_bind]
    change _ ∧ Reading.Within _
      (if tcpHl frame l4 < 20 ∨ frame.len.toNat < l4 + (tcpHl frame l4).toNat then _
        else _) ↔ _
    by_cases rejected :
        tcpHl frame l4 < 20 ∨ frame.len.toNat < l4 + (tcpHl frame l4).toNat
    · rw [if_pos rejected]
      simp only [Reading.within_pure, and_true, tcp.1, true_and, twenty] at rejected ⊢
      omega
    · rw [if_neg rejected]
      simp only [Reading.within_byte_bind, Reading.within_range_bind,
        Reading.within_pure, and_true, tcp.1, true_and]
      simp only [twenty] at rejected ⊢
      simp only [tcpHl] at rejected tcpHlShort ⊢
      omega
  · rw [if_neg tcp]
    simp only [Reading.within_range_bind, Reading.within_pure, and_true]
    rcases not_and_or.mp tcp with notTcp | short
    · simp only [notTcp, false_and, or_false]
      omega
    · omega

structure AcceptsHeader (linktype : Int) (frame : Frame) : Prop where
  long : l2 linktype + 20 ≤ frame.len.toNat
  version : ipV linktype frame = 4
  headerLong : 20 ≤ ihl linktype frame
  headerFits : l2 linktype + (ihl linktype frame).toNat ≤ frame.len.toNat

theorem dissect_of_rejects {linktype : Int} {frame : Frame}
    (rejects : ¬AcceptsHeader linktype frame) (now : Timestamp) (packet : RawPacket) :
    (dissect linktype now frame packet).value = (false, packet) ∧
      Reading.Within frame.caplen (dissect linktype now frame packet) := by
  have headerShort := l2_le linktype
  unfold dissect
  by_cases short : frame.len.toNat < l2 linktype + 20
  · rw [if_pos short]
    exact ⟨rfl, Reading.within_pure _ _⟩
  · have firstByte : l2 linktype < frame.caplen := by
      unfold Frame.caplen
      omega
    rw [if_neg short, Reading.within_byte_bind, Reading.value_bind, Reading.value_byte]
    by_cases notV4 : ipV linktype frame ≠ 4
    · simp only [ipV] at notV4
      rw [if_pos notV4]
      exact ⟨rfl, firstByte, Reading.within_pure _ _⟩
    · have rejected : ihl linktype frame < 20 ∨
          frame.len.toNat < l2 linktype + (ihl linktype frame).toNat := by
        by_contra passes
        rcases not_or.mp passes with ⟨headerLong, headerFits⟩
        exact rejects ⟨not_lt.mp short, not_not.mp notV4, UInt8.not_lt.mp headerLong,
          not_lt.mp headerFits⟩
      simp only [ipV] at notV4
      simp only [ihl] at rejected
      rw [if_neg notV4, if_pos rejected]
      exact ⟨rfl, firstByte, Reading.within_pure _ _⟩

theorem dissect_of_accepts {linktype : Int} {frame : Frame}
    (accepts : AcceptsHeader linktype frame) (now : Timestamp) (packet : RawPacket) :
    let rest := dissectL4 frame (l2 linktype + (ihl linktype frame).toNat)
      (ipP linktype frame)
      { packet with
        timestamp := now
        srcIp := ipAddress frame (l2 linktype + 12)
        dstIp := ipAddress frame (l2 linktype + 16) }
    (dissect linktype now frame packet).value = rest.value ∧
      (Reading.Within frame.caplen (dissect linktype now frame packet) ↔
        Reading.Within frame.caplen rest) := by
  have headerShort := l2_le linktype
  have header : l2 linktype + 20 ≤ frame.caplen := by
    have long := accepts.long
    unfold Frame.caplen
    omega
  have isV4 := accepts.version
  have passes : ¬(ihl linktype frame < 20 ∨
      frame.len.toNat < l2 linktype + (ihl linktype frame).toNat) :=
    not_or.mpr ⟨UInt8.not_lt.mpr accepts.headerLong, not_lt.mpr accepts.headerFits⟩
  simp only [ipV] at isV4
  simp only [ihl] at passes
  unfold dissect
  rw [if_neg (not_lt.mpr accepts.long), Reading.within_byte_bind, Reading.value_bind,
    Reading.value_byte, if_neg (not_not.mpr isV4), if_neg passes]
  simp only [Reading.within_byte_bind, Reading.within_range_bind, Reading.value_bind,
    Reading.value_byte, Reading.value_range, Nat.add_sub_cancel_left]
  refine ⟨rfl, ?_⟩
  constructor
  · intro within
    exact within.2.2.2.2
  · intro within
    exact ⟨by omega, by omega, by omega, by omega, within⟩

/-! ## What is read -/

structure PassesHeaders (linktype : Int) (frame : Frame) : Prop where
  version : ipV linktype frame = 4
  headerLong : 20 ≤ ihl linktype frame
  segment : ipP linktype frame = IPPROTO_TCP →
    20 ≤ tcpHl frame (l2 linktype + (ihl linktype frame).toNat)

theorem acceptsHeader_of_oversized {linktype : Int} {frame : Frame}
    (oversized : 65535 < frame.len.toNat) (passes : PassesHeaders linktype frame) :
    AcceptsHeader linktype frame := by
  have headerShort := l2_le linktype
  have ihlShort := toNat_ihl_le linktype frame
  exact ⟨by omega, passes.version, passes.headerLong, by omega⟩

theorem within_dissect_iff (linktype : Int) (now : Timestamp) (frame : Frame)
    (packet : RawPacket) :
    Reading.Within frame.caplen (dissect linktype now frame packet) ↔
      frame.len.toNat ≤ 65535 ∨ ¬PassesHeaders linktype frame := by
  have headerShort := l2_le linktype
  have ihlShort := toNat_ihl_le linktype frame
  by_cases accepts : AcceptsHeader linktype frame
  · rw [(dissect_of_accepts accepts now packet).2,
      within_dissectL4_iff _ _ _ (by omega) accepts.headerFits]
    apply or_congr_right
    constructor
    · intro rejected passes
      exact absurd rejected.2 (UInt8.not_lt.mpr (passes.segment rejected.1))
    · intro notPasses
      by_contra allowed
      apply notPasses
      refine ⟨accepts.version, accepts.headerLong, ?_⟩
      intro tcp
      exact UInt8.not_lt.mp fun small => allowed ⟨tcp, small⟩
  · apply iff_of_true (dissect_of_rejects accepts now packet).2
    by_contra notFits
    rcases not_or.mp notFits with ⟨oversized, passes⟩
    exact accepts (acceptsHeader_of_oversized (not_le.mp oversized) (not_not.mp passes))

/-- The frame that `nextPacket` goes on to dissect. -/
def handed (capture : PcapCapture) (answer : NextEx) : Option Frame :=
  if capture.handle ∧ capture.active ∧ answer.res = 1 then answer.frame else none

theorem nextPacket_of_handed {capture : PcapCapture} {answer : NextEx} {frame : Frame}
    (isHanded : capture.handed answer = some frame) (now : Timestamp)
    (packet : RawPacket) :
    capture.nextPacket now answer packet =
      dissect capture.linktype now frame packet := by
  rcases answer with ⟨res, data⟩
  unfold handed at isHanded
  split at isHanded
  · rename_i opened
    rcases opened with ⟨handle, active, rfl⟩
    cases isHanded
    simp [nextPacket, handle, active]
  · cases isHanded

theorem nextPacket_of_not_handed {capture : PcapCapture} {answer : NextEx}
    (nothing : capture.handed answer = none) (now : Timestamp) (packet : RawPacket) :
    capture.nextPacket now answer packet = pure (false, packet) := by
  rcases answer with ⟨res, data⟩
  unfold handed at nothing
  unfold nextPacket
  split
  · rfl
  · rename_i opened
    split
    · rfl
    · split
      · rename_i isOne isFrame
        simp only [Bool.or_eq_true, Bool.not_eq_true', not_or,
          Bool.not_eq_false] at opened
        rw [if_pos ⟨opened.1, opened.2, isOne⟩] at nothing
        cases nothing.symm.trans isFrame
      · rfl

/-! ## What becomes of the caller's packet -/

theorem value_dissectL4_congr (frame : Frame) (l4 : Nat) (proto : UInt8)
    {first second : RawPacket} (sameTime : first.timestamp = second.timestamp)
    (sameSrc : first.srcIp = second.srcIp) (sameDst : first.dstIp = second.dstIp) :
    let result := (dissectL4 frame l4 proto first).value
    let other := (dissectL4 frame l4 proto second).value
    result.1 = other.1 ∧ (other.1 = true → result.2 = other.2) := by
  unfold dissectL4
  by_cases tcp : proto = IPPROTO_TCP ∧ l4 + 20 ≤ frame.len.toNat
  · rw [if_pos tcp, if_pos tcp]
    rw [Reading.value_byte_bind, Reading.value_byte_bind]
    by_cases rejected :
        tcpHl frame l4 < 20 ∨ frame.len.toNat < l4 + (tcpHl frame l4).toNat
    · simp only [tcpHl] at rejected
      rw [if_pos rejected, if_pos rejected]
      simp
    · simp only [tcpHl] at rejected
      rw [if_neg rejected, if_neg rejected]
      simp [sameTime, sameSrc, sameDst]
  · simp [if_neg tcp, sameTime, sameSrc, sameDst]

/-- What was in the caller's packet has no influence on the result, and none of
it is left in a packet that was captured. -/
theorem value_nextPacket_congr (capture : PcapCapture) (now : Timestamp)
    (answer : NextEx) (first second : RawPacket) :
    let result := (capture.nextPacket now answer first).value
    let other := (capture.nextPacket now answer second).value
    result.1 = other.1 ∧ (other.1 = true → result.2 = other.2) := by
  cases isHanded : capture.handed answer with
  | none => simp [nextPacket_of_not_handed isHanded]
  | some frame =>
      rw [nextPacket_of_handed isHanded, nextPacket_of_handed isHanded]
      by_cases accepts : AcceptsHeader capture.linktype frame
      · rw [(dissect_of_accepts accepts now first).1,
          (dissect_of_accepts accepts now second).1]
        exact value_dissectL4_congr _ _ _ rfl rfl rfl
      · simp [(dissect_of_rejects accepts now _).1]

/-! ## Reads of captured bytes -/

def ReadsCaptured (capture : PcapCapture) (now : Timestamp) (answer : NextEx)
    (packet : RawPacket) : Prop :=
  ∀ frame ∈ answer.frame,
    Reading.Within frame.caplen (capture.nextPacket now answer packet)

/-- The reads stay inside the captured bytes exactly if the frame that is handed
over was captured whole or is rejected for its header fields. -/
theorem reads_captured_iff (capture : PcapCapture) (now : Timestamp)
    (answer : NextEx) (packet : RawPacket) :
    ReadsCaptured capture now answer packet ↔
      ∀ frame ∈ capture.handed answer,
        frame.len.toNat ≤ 65535 ∨ ¬PassesHeaders capture.linktype frame := by
  unfold ReadsCaptured
  cases isHanded : capture.handed answer with
  | none =>
      rw [nextPacket_of_not_handed isHanded]
      simp
  | some frame =>
      have isData : answer.frame = some frame := by
        unfold handed at isHanded
        split at isHanded
        · exact isHanded
        · cases isHanded
      rw [nextPacket_of_handed isHanded, isData]
      simp only [Option.mem_some_iff, forall_eq']
      exact within_dissect_iff capture.linktype now frame packet

/-- A UDP packet of the greatest length IPv4 allows, in an Ethernet frame. -/
def longestFrame : Frame where
  len := 65549
  memory
    | 12 => 0x08
    | 14 => 0x45
    | 16 => 0xFF
    | 17 => 0xFF
    | 23 => 17
    | _ => 0

/-- The last fourteen bytes of the longest frame are read but were not
captured. -/
theorem longest_frame_read_past_capture :
    ¬∀ (capture : PcapCapture) (now : Timestamp) (answer : NextEx) (packet : RawPacket),
      ReadsCaptured capture now answer packet := by
  intro everywhere
  have within := everywhere {} 0 ⟨1, some longestFrame⟩ {} longestFrame rfl
  have isHanded :
      ({} : PcapCapture).handed ⟨1, some longestFrame⟩ = some longestFrame := rfl
  rw [nextPacket_of_handed isHanded, within_dissect_iff] at within
  rcases within with whole | rejected
  · exact absurd whole (by decide)
  · exact rejected ⟨by decide, by decide, by decide⟩

end PcapCapture

end Prism.Capture

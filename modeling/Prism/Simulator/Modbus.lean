import Prism.Foundation.Bytes

/-! # The Modbus side of the simulator

The shared codec of `common.hpp`, the second codec that the client carries
itself, and the server that plays the PLC.
-/

namespace Prism.Simulator.Modbus

/-! ## The server's codec -/

structure PDU where
  function : UInt8 := 0
  address : UInt16 := 0
  value : UInt16 := 0
  deriving DecidableEq, Repr

def encodeMbapPdu (p : PDU) : List UInt8 :=
  [0x00, 0x01,                                -- TX id
   0x00, 0x00,                                -- protocol id
   0x00, 0x06,                                -- length
   0x01,                                      -- unit id
   p.function,
   ((p.address >>> 8) &&& 0xFF).toUInt8,
   (p.address &&& 0xFF).toUInt8,
   ((p.value >>> 8) &&& 0xFF).toUInt8,
   (p.value &&& 0xFF).toUInt8]

def encodeException (fc exceptionCode : UInt8) : List UInt8 :=
  [0x00, 0x01,
   0x00, 0x00,
   0x00, 0x03,                                -- unit + fc + code
   0x01,
   fc ||| 0x80,
   exceptionCode]

/-- A frame too short for a PDU decodes to the default one. -/
def decodeMbapPdu (b : List UInt8) : PDU :=
  if short : b.length < 12 then
    {}
  else
    { function := b[7]
      address := (b[8].toUInt16 <<< 8) ||| b[9].toUInt16
      value := (b[10].toUInt16 <<< 8) ||| b[11].toUInt16 }

@[simp] theorem length_encodeMbapPdu (p : PDU) : (encodeMbapPdu p).length = 12 := rfl

@[simp] theorem length_encodeException (fc exceptionCode : UInt8) :
    (encodeException fc exceptionCode).length = 9 := rfl

theorem encodeException_ne_encodeMbapPdu (fc exceptionCode : UInt8) (p : PDU) :
    encodeException fc exceptionCode ≠ encodeMbapPdu p := by
  intro equal
  have lengths := congrArg List.length equal
  simp at lengths

theorem decode_encode (p : PDU) : decodeMbapPdu (encodeMbapPdu p) = p := by
  have long : ¬(encodeMbapPdu p).length < 12 := by simp
  rw [decodeMbapPdu, dif_neg long]
  simp only [encodeMbapPdu, List.getElem_cons_succ, List.getElem_cons_zero,
    Bytes.toUInt8_and_mask, Bytes.join_split]

theorem decodeMbapPdu_of_short {b : List UInt8} (short : b.length < 12) :
    decodeMbapPdu b = {} := by
  simp [decodeMbapPdu, short]

theorem decodeMbapPdu_take (b : List UInt8) {limit : Nat} (enough : 12 ≤ limit) :
    decodeMbapPdu (b.take limit) = decodeMbapPdu b := by
  by_cases short : b.length < 12
  · have stillShort : (b.take limit).length < 12 := by
      rw [List.length_take]
      omega
    rw [decodeMbapPdu_of_short short, decodeMbapPdu_of_short stillShort]
  · have long : ¬(b.take limit).length < 12 := by
      rw [List.length_take]
      omega
    simp only [decodeMbapPdu, dif_neg short, dif_neg long, List.getElem_take]

/-! ## The client's codec -/

namespace Client

/-- The client keeps the whole header in its PDU. -/
structure PDU where
  transaction : UInt16 := 1
  protocol : UInt16 := 0
  length : UInt16 := 6
  unit : UInt8 := 1
  fn : UInt8 := 0
  addr : UInt16 := 0
  value : UInt16 := 0
  deriving DecidableEq, Repr

def encodeMbapPdu (p : PDU) : List UInt8 :=
  [(p.transaction >>> 8).toUInt8, (p.transaction &&& 0xFF).toUInt8,
   (p.protocol >>> 8).toUInt8, (p.protocol &&& 0xFF).toUInt8,
   (p.length >>> 8).toUInt8, (p.length &&& 0xFF).toUInt8,
   p.unit,
   p.fn,
   (p.addr >>> 8).toUInt8, (p.addr &&& 0xFF).toUInt8,
   (p.value >>> 8).toUInt8, (p.value &&& 0xFF).toUInt8]

def requestFrame (fn : UInt8) (addr val : UInt16) : List UInt8 :=
  encodeMbapPdu { fn := fn, addr := addr, value := val }

/-- With its default header the client encodes as the server does. -/
theorem requestFrame_eq (fn : UInt8) (addr val : UInt16) :
    requestFrame fn addr val = Modbus.encodeMbapPdu ⟨fn, addr, val⟩ := by
  simp only [requestFrame, encodeMbapPdu, Modbus.encodeMbapPdu,
    Bytes.toUInt8_and_mask]
  rfl

end Client

/-! ## The server -/

def isWriteFc (fc : UInt8) : Bool :=
  fc == 5 || fc == 6 || fc == 15 || fc == 16

structure Server where
  writeLocked : Bool := false
  deriving DecidableEq, Repr

namespace Server

/-- The commands on the safety coil. -/
def engageCommand : PDU := ⟨5, 0xFFFF, 0xFF00⟩

def releaseCommand : PDU := ⟨5, 0xFFFF, 0x0000⟩

/-- The body of the accept loop once a PDU has been decoded: the new state and
the reply. -/
def respond (server : Server) (p : PDU) : Server × List UInt8 :=
  if p.address = 0xFFFF ∧ p.function = 5 then
    let server : Server :=
      if p.value = 0xFF00 then { writeLocked := true }
      else if p.value = 0x0000 then { writeLocked := false }
      else server
    (server, encodeMbapPdu p)
  else if server.writeLocked && isWriteFc p.function then
    (server, encodeException p.function 0x01)
  else
    (server, encodeMbapPdu p)

/-- One turn of the accept loop: a single `read` into 256 bytes, and a reply if
it returned anything. -/
def serve (server : Server) (received : List UInt8) :
    Server × Option (List UInt8) :=
  let buf := received.take 256
  if 0 < buf.length then
    let answered := server.respond (decodeMbapPdu buf)
    (answered.1, some answered.2)
  else
    (server, none)

@[simp] theorem serve_nil (server : Server) : server.serve [] = (server, none) := rfl

/-- Bytes the single `read` leaves behind cannot matter. -/
theorem serve_of_nonempty (server : Server) {received : List UInt8}
    (nonempty : received ≠ []) :
    server.serve received =
      ((server.respond (decodeMbapPdu received)).1,
        some (server.respond (decodeMbapPdu received)).2) := by
  have someRead : 0 < (received.take 256).length := by
    rw [List.length_take]
    have positive := List.length_pos_iff.mpr nonempty
    omega
  have enough : 12 ≤ 256 := by decide
  simp only [serve, if_pos someRead, decodeMbapPdu_take received enough]

/-- The three branches of the reply: safety-coil traffic and permitted requests
are echoed, a write-class request to a locked PLC gets the exception. -/
theorem respond_reply (server : Server) (p : PDU) :
    (server.respond p).2 =
      if ¬(p.address = 0xFFFF ∧ p.function = 5) ∧ server.writeLocked = true ∧
          isWriteFc p.function = true then
        encodeException p.function 0x01
      else
        encodeMbapPdu p := by
  by_cases coil : p.address = 0xFFFF ∧ p.function = 5
  · simp [respond, coil]
  · cases locked : server.writeLocked <;>
      cases isWrite : isWriteFc p.function <;>
      simp [respond, coil, locked, isWrite]

theorem respond_eq_exception_iff {server : Server}
    (locked : server.writeLocked = true) (p : PDU) :
    (server.respond p).2 = encodeException p.function 0x01 ↔
      isWriteFc p.function = true ∧ ¬(p.function = 5 ∧ p.address = 0xFFFF) := by
  rw [respond_reply]
  by_cases blocked : ¬(p.address = 0xFFFF ∧ p.function = 5) ∧
      server.writeLocked = true ∧ isWriteFc p.function = true
  · rw [if_pos blocked]
    exact iff_of_true rfl ⟨blocked.2.2, fun coil => blocked.1 coil.symm⟩
  · rw [if_neg blocked]
    apply iff_of_false
    · exact (encodeException_ne_encodeMbapPdu _ _ _).symm
    · intro refused
      exact blocked ⟨fun coil => refused.2 coil.symm, locked, refused.1⟩

theorem writeLocked_respond (server : Server) (p : PDU) :
    (server.respond p).1.writeLocked =
      if p = engageCommand then true
      else if p = releaseCommand then false
      else server.writeLocked := by
  rcases p with ⟨function, address, value⟩
  by_cases coil : address = 0xFFFF ∧ function = 5
  · rcases coil with ⟨rfl, rfl⟩
    by_cases engage : value = 0xFF00
    · simp [respond, engageCommand, engage]
    · by_cases release : value = 0x0000
      · simp [respond, engageCommand, releaseCommand, release]
      · simp [respond, engageCommand, releaseCommand, engage, release]
  · have notEngage : PDU.mk function address value ≠ engageCommand := by
      intro equal
      cases equal
      exact coil ⟨rfl, rfl⟩
    have notRelease : PDU.mk function address value ≠ releaseCommand := by
      intro equal
      cases equal
      exact coil ⟨rfl, rfl⟩
    rw [if_neg notEngage, if_neg notRelease, respond, if_neg coil]
    split <;> rfl

end Server

end Prism.Simulator.Modbus

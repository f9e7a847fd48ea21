import Prism.Simulator.Frames
import Prism.Simulator.ServerRuns

/-! # The servers of the simulator

The accept loops of the DNP3 and the IEC-104 server, which echo what they read, and the
three servers as one machine over the requests of the clients. The simulator that is
bundled with PRISM has a Modbus server without a lock; the two are compared.
-/

namespace Prism.Simulator

/-- What a turn of an accept loop prints and what it writes back. -/
structure Served where
  printed : List String
  reply : List UInt8
  deriving DecidableEq, Repr

namespace DNP3

def decodeAndLog (buf : List UInt8) : String :=
  if short : buf.length < 10 then
    "[dnp3] too small frame (" ++ toString buf.length ++ ")\n"
  else
    let ctrl := buf[2]
    let isFromMaster := (ctrl &&& 0x40) != 0
    let func := buf[6]
    "[dnp3] RX master=" ++ (if isFromMaster then "1" else "0") ++
      " fc=" ++ toString func.toNat ++ "\n"

/-- A single `read` into 2048 bytes, and the echo if it returned anything. -/
def serve (received : List UInt8) : Served :=
  let buf := received.take 2048
  if 0 < buf.length then ⟨[decodeAndLog buf], buf⟩ else ⟨[], []⟩

end DNP3

namespace IEC104

/-- A single `read` into 256 bytes, and the echo of whatever it returned. -/
def serve (received : List UInt8) : Served :=
  let buf := received.take 256
  if long : 7 ≤ buf.length then
    let typeId := buf[6]
    ⟨["[iec104] RX type=" ++ toString typeId.toNat ++ "\n"], buf⟩
  else
    ⟨[], buf⟩

end IEC104

/-! ## Echoes -/

theorem DNP3.reply_serve (received : List UInt8) :
    (DNP3.serve received).reply = received.take 2048 := by
  unfold serve
  cases received with
  | nil => rfl
  | cons byte rest => rfl

theorem IEC104.reply_serve (received : List UInt8) :
    (IEC104.serve received).reply = received.take 256 := by
  unfold serve
  dsimp only
  split <;> rfl

/-! ## The Modbus server without a lock -/

namespace Modbus

/-- A turn of the accept loop of the bundled simulator, whose codec is the same. -/
def Bundled.serve (received : List UInt8) : Option (List UInt8) :=
  let buf := received.take 256
  if 0 < buf.length then some (encodeMbapPdu (decodeMbapPdu buf)) else none

def IsGuarded (p : PDU) : Prop :=
  isWriteFc p.function = true ∧ ¬(p.function = 5 ∧ p.address = 0xFFFF)

/-- The reply of a server without a lock, unless the lock is engaged and guards the
request. -/
theorem serve_eq_bundled_or_exception (server : Server) (received : List UInt8) :
    let p := decodeMbapPdu received
    let reply := (server.serve received).2
    (¬(server.writeLocked = true ∧ IsGuarded p) ∧ reply = Bundled.serve received) ∨
      (server.writeLocked = true ∧ IsGuarded p) ∧
        reply = some (encodeException p.function 0x01) ∧
        Bundled.serve received = some (encodeMbapPdu p) := by
  intro p reply
  cases received with
  | nil => exact .inl ⟨fun guarded => absurd guarded.2.1 (by decide), rfl⟩
  | cons byte rest =>
      have isReply : reply = some (server.respond p).2 :=
        congrArg Prod.snd (server.serve_of_nonempty (List.cons_ne_nil byte rest))
      have isPlain : Bundled.serve (byte :: rest) = some (encodeMbapPdu p) := by
        have enough : 12 ≤ 256 := by decide
        rw [Bundled.serve, decodeMbapPdu_take _ enough]
        rfl
      rw [isReply, isPlain, Server.respond_reply]
      by_cases guarded : server.writeLocked = true ∧ IsGuarded p
      · refine .inr ⟨guarded, ?_, rfl⟩
        rw [if_pos ⟨fun coil => guarded.2.2 coil.symm, guarded.1, guarded.2.1⟩]
      · refine .inl ⟨guarded, ?_⟩
        rw [if_neg]
        rintro ⟨notCoil, locked, isWrite⟩
        exact guarded ⟨locked, isWrite, fun coil => notCoil coil.symm⟩

/-- The two servers on the same frames, of whatever bytes. They give the same reply to a
frame unless the last command before it engages the lock and the frame is a write that
is not for the safety coil; then the one without a lock acknowledges the write and the
other one refuses it. -/
theorem bundled_differs_iff (frames : List (List UInt8)) (index : Nat)
    (received : List UInt8) (isFrame : frames[index]? = some received) :
    ((Server.machine.outputs {} frames)[index]? ≠ (frames.map Bundled.serve)[index]? ↔
        Server.LastCommandEngages (frames.take index) ∧
          IsGuarded (decodeMbapPdu received)) ∧
      ((Server.machine.outputs {} frames)[index]? ≠ (frames.map Bundled.serve)[index]? →
        (Server.machine.outputs {} frames)[index]? =
            some (some (encodeException (decodeMbapPdu received).function 0x01)) ∧
          (frames.map Bundled.serve)[index]? =
            some (some (encodeMbapPdu (decodeMbapPdu received)))) := by
  let server := Server.machine.finalState {} (frames.take index)
  have isReply : (Server.machine.outputs {} frames)[index]? =
      some (server.serve received).2 := by
    rw [Machine.getElem?_outputs, isFrame]
    rfl
  have isPlain : (frames.map Bundled.serve)[index]? =
      some (Bundled.serve received) := by
    rw [List.getElem?_map, isFrame]
    rfl
  rw [isReply, isPlain, ← Server.writeLocked_finalState_iff]
  rcases serve_eq_bundled_or_exception server received with
    ⟨notGuarded, same⟩ | ⟨guarded, refused, acknowledged⟩
  · rw [same]
    exact ⟨iff_of_false (fun differs => differs rfl) notGuarded,
      fun differs => absurd rfl differs⟩
  · rw [refused, acknowledged]
    refine ⟨iff_of_true ?_ guarded, fun _ => ⟨rfl, rfl⟩⟩
    intro equal
    exact encodeException_ne_encodeMbapPdu _ _ _
      (Option.some.inj (Option.some.inj equal))

/-- A write of a register after the engage command. -/
theorem bundled_differs_on_refused_write :
    let frames := [encodeMbapPdu Server.engageCommand, encodeMbapPdu ⟨6, 16, 1⟩]
    (Server.machine.outputs {} frames)[1]? ≠ (frames.map Bundled.serve)[1]? := by
  intro frames
  have differs := (bundled_differs_iff frames 1 (encodeMbapPdu ⟨6, 16, 1⟩) rfl).1
  refine differs.mpr ⟨⟨[], encodeMbapPdu Server.engageCommand, [], rfl, ?_, ?_⟩, ?_⟩
  · exact decode_encode _
  · simp
  · rw [decode_encode]
    exact ⟨rfl, by decide⟩

end Modbus

/-! ## The servers together -/

/-- A request is delivered to the server of its protocol. Only the Modbus server keeps
a state. -/
def answer (server : Modbus.Server) (request : Request) : Modbus.Server × List UInt8 :=
  match request with
  | .modbus .. =>
      let served := server.serve request.frame
      (served.1, served.2.getD [])
  | .dnp3 .. => (server, (DNP3.serve request.frame).reply)
  | .iec104 .. => (server, (IEC104.serve request.frame).reply)

def servers : Machine Modbus.Server Request (List UInt8) where
  step := answer

def isRefused (request : Request) (reply : List UInt8) : Bool :=
  reply == Modbus.encodeException request.code 0x01

theorem Request.length_frame (request : Request) : request.frame.length = 12 := by
  cases request <;> rfl

theorem answer_cases (server : Modbus.Server) (request : Request) :
    (answer server request).2 = request.frame ∨
      (∃ fn addr val, request = .modbus fn addr val ∧ Modbus.isWriteFc fn = true) ∧
        (answer server request).2 = Modbus.encodeException request.code 0x01 := by
  cases request with
  | dnp3 func => exact .inl (DNP3.reply_serve _)
  | iec104 typeId ioa => exact .inl (IEC104.reply_serve _)
  | modbus fn addr val =>
      have nonempty : Modbus.Client.requestFrame fn addr val ≠ [] := List.cons_ne_nil _ _
      have decoded : Modbus.decodeMbapPdu (Modbus.Client.requestFrame fn addr val) =
          ⟨fn, addr, val⟩ := by
        rw [Modbus.Client.requestFrame_eq, Modbus.decode_encode]
      simp only [answer, Request.frame, Modbus.Server.serve_of_nonempty server nonempty,
        decoded, Option.getD_some, Modbus.Server.respond_reply, Request.code]
      split
      · rename_i refused
        exact .inr ⟨⟨fn, addr, val, rfl, refused.2.2⟩, rfl⟩
      · exact .inl (Modbus.Client.requestFrame_eq fn addr val).symm

theorem isRefused_frame (request : Request) : isRefused request request.frame = false := by
  rw [isRefused, beq_eq_false_iff_ne]
  intro equal
  have lengths := congrArg List.length equal
  rw [request.length_frame] at lengths
  cases lengths

end Prism.Simulator

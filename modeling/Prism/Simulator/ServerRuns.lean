import Mathlib.Data.List.Induction
import Prism.Foundation.Machine
import Prism.Simulator.Modbus

/-! # Runs of the Modbus server

The server as a machine over the bytes that its connections deliver. A locked
PLC is meant to refuse every write that is not one of the two commands on the
safety coil.
-/

namespace Prism.Simulator.Modbus.Server

def machine : Machine Server (List UInt8) (Option (List UInt8)) where
  step := serve

/-! ## Writes to a locked PLC -/

/-- What a locked PLC must not acknowledge. -/
structure IsForbidden (p : PDU) : Prop where
  isWrite : isWriteFc p.function = true
  notEngage : p ≠ engageCommand
  notRelease : p ≠ releaseCommand

/-- FC5 to the safety coil with a value that is neither of the two commands. -/
structure IsStrayCoilWrite (p : PDU) : Prop where
  function : p.function = 5
  address : p.address = 0xFFFF
  notEngage : p.value ≠ 0xFF00
  notRelease : p.value ≠ 0x0000

theorem IsStrayCoilWrite.isForbidden {p : PDU} (stray : IsStrayCoilWrite p) :
    IsForbidden p where
  isWrite := by
    rw [stray.function]
    rfl
  notEngage equal := stray.notEngage (congrArg PDU.value equal)
  notRelease equal := stray.notRelease (congrArg PDU.value equal)

theorem IsForbidden.isStrayCoilWrite {p : PDU} (forbidden : IsForbidden p)
    (function : p.function = 5) (address : p.address = 0xFFFF) :
    IsStrayCoilWrite p := by
  rcases p with ⟨code, coil, value⟩
  change code = 5 at function
  change coil = 0xFFFF at address
  subst function address
  exact
    { function := rfl
      address := rfl
      notEngage := fun equal =>
        forbidden.notEngage (congrArg (PDU.mk 5 0xFFFF) equal)
      notRelease := fun equal =>
        forbidden.notRelease (congrArg (PDU.mk 5 0xFFFF) equal) }

def RefusesWrite (server : Server) (received : List UInt8) : Prop :=
  let p := decodeMbapPdu received
  server.writeLocked = true → IsForbidden p →
    (server.serve received).2 = some (encodeException p.function 0x01) ∧
      (server.serve received).2 ≠ some (encodeMbapPdu p)

theorem IsForbidden.nonempty {received : List UInt8}
    (forbidden : IsForbidden (decodeMbapPdu received)) : received ≠ [] := by
  rintro rfl
  cases forbidden.isWrite

theorem refusesWrite_iff (server : Server) (received : List UInt8) :
    RefusesWrite server received ↔
      ¬(server.writeLocked = true ∧ IsStrayCoilWrite (decodeMbapPdu received)) := by
  constructor
  · rintro refuses ⟨locked, stray⟩
    have forbidden := stray.isForbidden
    have refused := (refuses locked forbidden).1
    rw [serve_of_nonempty server forbidden.nonempty, Option.some.injEq,
      respond_eq_exception_iff locked] at refused
    exact refused.2 ⟨stray.function, stray.address⟩
  · intro notStray locked forbidden
    have notCoil : ¬((decodeMbapPdu received).function = 5 ∧
        (decodeMbapPdu received).address = 0xFFFF) := by
      rintro ⟨function, address⟩
      exact notStray ⟨locked, forbidden.isStrayCoilWrite function address⟩
    rw [serve_of_nonempty server forbidden.nonempty,
      (respond_eq_exception_iff locked _).mpr ⟨forbidden.isWrite, notCoil⟩]
    refine ⟨rfl, ?_⟩
    rw [ne_eq, Option.some.injEq]
    exact encodeException_ne_encodeMbapPdu _ _ _

/-- In a run of the server every forbidden write to the locked PLC is refused if
and only if no stray write to the safety coil is delivered while it is locked. -/
theorem locked_refuses_writes_iff (frames : List (List UInt8)) :
    machine.Along RefusesWrite {} frames ↔
      machine.Along
        (fun server received =>
          ¬(server.writeLocked = true ∧ IsStrayCoilWrite (decodeMbapPdu received)))
        {} frames :=
  machine.along_congr refusesWrite_iff {} frames

def strayCoilWrite : PDU := ⟨5, 0xFFFF, 0x1234⟩

/-- The locked PLC echoes a stray write to the safety coil. -/
theorem locked_acknowledges_stray_write :
    ¬∀ frames : List (List UInt8), machine.Along RefusesWrite {} frames := by
  intro everywhere
  have refuses := everywhere [encodeMbapPdu engageCommand, encodeMbapPdu strayCoilWrite]
    [encodeMbapPdu engageCommand] (encodeMbapPdu strayCoilWrite) [] rfl
  rw [refusesWrite_iff, decode_encode] at refuses
  exact refuses ⟨by decide, rfl, rfl, by decide, by decide⟩

/-! ## The lock as a function of the history -/

/-- The bytes from 7 to 11 of a frame: FC5 to the safety coil with a value. -/
def coilWriteBytes (value : UInt16) : List UInt8 :=
  [0x05, 0xFF, 0xFF, (value >>> 8).toUInt8, value.toUInt8]

/-- A frame is decoded to a write to the safety coil if it has the bytes of one,
and nothing else in it matters. -/
theorem decode_eq_coilWrite_iff (received : List UInt8) (value : UInt16) :
    decodeMbapPdu received = ⟨5, 0xFFFF, value⟩ ↔
      (received.drop 7).take 5 = coilWriteBytes value := by
  by_cases short : received.length < 12
  · rw [decodeMbapPdu_of_short short]
    apply iff_of_false
    · intro equal
      have function : (0 : UInt8) = 5 := congrArg PDU.function equal
      exact absurd function (by decide)
    · intro equal
      have lengths := congrArg List.length equal
      rw [List.length_take, List.length_drop] at lengths
      change min 5 (received.length - 7) = 5 at lengths
      omega
  · have bytes : (received.drop 7).take 5 =
        [received[7], received[8], received[9], received[10], received[11]] := by
      rw [List.drop_eq_getElem_cons (by omega), List.take_succ_cons,
        List.drop_eq_getElem_cons (by omega), List.take_succ_cons,
        List.drop_eq_getElem_cons (by omega), List.take_succ_cons,
        List.drop_eq_getElem_cons (by omega), List.take_succ_cons,
        List.drop_eq_getElem_cons (by omega), List.take_succ_cons, List.take_zero]
    have high : ((0xFFFF : UInt16) >>> 8).toUInt8 = 0xFF := by decide
    have low : (0xFFFF : UInt16).toUInt8 = 0xFF := by decide
    rw [decodeMbapPdu, dif_neg short, bytes, coilWriteBytes]
    simp only [PDU.mk.injEq, Bytes.join_eq_iff, List.cons.injEq, high, low, and_true,
      and_assoc]

/-- Some frame was decoded to the engage command, and none since to the release
command. -/
def LastCommandEngages (frames : List (List UInt8)) : Prop :=
  ∃ before engage after, frames = before ++ engage :: after ∧
    decodeMbapPdu engage = engageCommand ∧
      ∀ frame ∈ after, decodeMbapPdu frame ≠ releaseCommand

theorem lastCommandEngages_concat_iff (frames : List (List UInt8))
    (received : List UInt8) :
    LastCommandEngages (frames ++ [received]) ↔
      decodeMbapPdu received = engageCommand ∨
        LastCommandEngages frames ∧ decodeMbapPdu received ≠ releaseCommand := by
  constructor
  · rintro ⟨before, engage, after, split, engages, notReleased⟩
    rcases List.eq_nil_or_concat after with rfl | ⟨rest, last, rfl⟩
    · rcases List.append_inj' split rfl with ⟨_, isLast⟩
      rw [List.singleton_inj.mp isLast]
      exact .inl engages
    · rw [List.concat_eq_append] at split notReleased
      rw [← List.cons_append, ← List.append_assoc] at split
      rcases List.append_inj' split rfl with ⟨isBefore, isLast⟩
      rw [List.singleton_inj.mp isLast]
      refine .inr ⟨⟨before, engage, rest, isBefore, engages, ?_⟩, ?_⟩
      · intro frame member
        exact notReleased frame (List.mem_append_left _ member)
      · exact notReleased last (by simp)
  · rintro (engages | ⟨⟨before, engage, after, rfl, engages, notReleased⟩, notRelease⟩)
    · exact ⟨frames, received, [], rfl, engages, by simp⟩
    · refine ⟨before, engage, after ++ [received], by simp, engages, ?_⟩
      intro frame member
      rcases List.mem_append.mp member with earlier | isLast
      · exact notReleased frame earlier
      · rw [List.mem_singleton.mp isLast]
        exact notRelease

theorem writeLocked_serve (server : Server) (received : List UInt8) :
    (server.serve received).1.writeLocked =
      if decodeMbapPdu received = engageCommand then true
      else if decodeMbapPdu received = releaseCommand then false
      else server.writeLocked := by
  by_cases empty : received = []
  · subst empty
    rfl
  · rw [serve_of_nonempty server empty]
    exact writeLocked_respond server _

theorem writeLocked_finalState_iff (frames : List (List UInt8)) :
    (machine.finalState {} frames).writeLocked = true ↔ LastCommandEngages frames := by
  induction frames using List.reverseRecOn with
  | nil => simp [LastCommandEngages]
  | append_singleton frames received induction =>
      rw [Machine.finalState_append, lastCommandEngages_concat_iff, ← induction]
      change (serve _ received).1.writeLocked = true ↔ _
      rw [writeLocked_serve]
      by_cases engages : decodeMbapPdu received = engageCommand
      · simp [engages]
      · by_cases releases : decodeMbapPdu received = releaseCommand
        · simp [releases, show releaseCommand ≠ engageCommand by decide]
        · simp [engages, releases]

def IsCommand (received : List UInt8) : Prop :=
  (received.drop 7).take 5 = coilWriteBytes 0xFF00 ∨
    (received.drop 7).take 5 = coilWriteBytes 0x0000

instance (received : List UInt8) : Decidable (IsCommand received) :=
  inferInstanceAs (Decidable (_ ∨ _))

theorem isCommand_iff (received : List UInt8) :
    IsCommand received ↔
      decodeMbapPdu received = engageCommand ∨
        decodeMbapPdu received = releaseCommand :=
  or_congr (decode_eq_coilWrite_iff received 0xFF00).symm
    (decode_eq_coilWrite_iff received 0x0000).symm

theorem serve_eq_self_of_not_isCommand (server : Server) {received : List UInt8}
    (notCommand : ¬IsCommand received) : (server.serve received).1 = server := by
  rw [isCommand_iff, not_or] at notCommand
  have unchanged := writeLocked_serve server received
  rw [if_neg notCommand.1, if_neg notCommand.2] at unchanged
  exact congrArg Server.mk unchanged

/-- Frames that are too short, or carry FC15 or another value for the safety coil,
and writes that are refused. -/
def IsIgnored (server : Server) (received : List UInt8) : Prop :=
  let p := decodeMbapPdu received
  received.length < 12 ∨ p.function = 15 ∨ IsStrayCoilWrite p ∨
    (server.serve received).2 = some (encodeException p.function 0x01)

theorem IsIgnored.not_isCommand {server : Server} {received : List UInt8}
    (ignored : IsIgnored server received) : ¬IsCommand received := by
  intro command
  rcases ignored with short | multiCoil | stray | refused
  · have length : ((received.drop 7).take 5).length = 5 := by
      rcases command with bytes | bytes <;> rw [bytes] <;> rfl
    rw [List.length_take, List.length_drop] at length
    omega
  · rcases (isCommand_iff received).mp command with engages | releases
    · rw [engages] at multiCoil
      exact absurd multiCoil (by decide)
    · rw [releases] at multiCoil
      exact absurd multiCoil (by decide)
  · rcases (isCommand_iff received).mp command with engages | releases
    · exact stray.isForbidden.notEngage engages
    · exact stray.isForbidden.notRelease releases
  · have nonempty : received ≠ [] := by
      rintro rfl
      rcases command with bytes | bytes <;> cases bytes
    rw [serve_of_nonempty server nonempty, Option.some.injEq, respond_reply] at refused
    rw [if_neg] at refused
    · exact encodeException_ne_encodeMbapPdu _ _ _ refused.symm
    · rintro ⟨notCoil, _⟩
      rcases (isCommand_iff received).mp command with engages | releases
      · exact notCoil (by rw [engages]; decide)
      · exact notCoil (by rw [releases]; decide)

/-- The lock is decided by the last command and by nothing else. A frame that is
malformed or too long is no exception: its bytes from 7 to 11 decide. -/
theorem lock_follows_commands (frames : List (List UInt8)) :
    ((machine.finalState {} frames).writeLocked = true ↔ LastCommandEngages frames) ∧
      (∀ (server : Server) (received : List UInt8),
        ¬IsCommand received → (server.serve received).1 = server) ∧
      (∀ (server : Server) (received : List UInt8),
        IsIgnored server received → (server.serve received).1 = server) := by
  refine ⟨writeLocked_finalState_iff frames, ?_, ?_⟩
  · intro server received notCommand
    exact serve_eq_self_of_not_isCommand server notCommand
  · intro server received ignored
    exact serve_eq_self_of_not_isCommand server ignored.not_isCommand

/-- A stray write to the safety coil and a header alone, while the PLC is locked. -/
theorem lock_follows_commands_past_noise :
    ((⟨true⟩ : Server).serve (encodeMbapPdu strayCoilWrite)).1 = ⟨true⟩ ∧
      ((⟨true⟩ : Server).serve [0, 1, 0, 0, 0, 6, 1]).1 = ⟨true⟩ := by
  rcases lock_follows_commands [] with ⟨_, notCommand, ignored⟩
  exact ⟨notCommand _ _ (by decide), ignored _ _ (.inl (by decide))⟩

/-- An engage command with more bytes behind it than a frame can have. -/
def oversizedEngage : List UInt8 :=
  encodeMbapPdu engageCommand ++ List.replicate 288 0

/-- A frame that is too long engages the lock. -/
theorem oversized_frame_engages :
    ¬∀ (frames : List (List UInt8)) (received : List UInt8), 260 < received.length →
      (machine.finalState {} (frames ++ [received])).writeLocked =
        (machine.finalState {} frames).writeLocked := by
  intro everywhere
  have unchanged := everywhere [] oversizedEngage (by decide +kernel)
  exact absurd unchanged (by decide +kernel)

end Prism.Simulator.Modbus.Server

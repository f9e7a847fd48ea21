import Mathlib.Data.List.TakeWhile
import Prism.Simulator.Frames

/-! # The command line of the simulator

`run_cli` and what the three clients do with its arguments. The arguments are read
with `std::stoi` and stored in the bytes and words of a frame.
-/

namespace Prism.Simulator

/-! ## Reading integers -/

/-- `isspace` of the C library. -/
def isSpace (c : Char) : Bool := c == ' ' || (9 ≤ c.toNat && c.toNat ≤ 13)

/-- Decimal digits, up to the first character that is none. -/
def unsigned (chars : List Char) : Option Int :=
  let digits := chars.takeWhile Char.isDigit
  if digits = [] then none else some (Nat.ofDigitChars 10 digits 0)

def signed : List Char → Option Int
  | '-' :: rest => (unsigned rest).map Neg.neg
  | '+' :: rest => unsigned rest
  | chars => unsigned chars

/-- `std::stoi`, which throws where it finds no digits, and beyond the range of
`int`. -/
def stoi (text : String) : Option Int :=
  (signed (text.toList.dropWhile isSpace)).filter fun value =>
    -2147483648 ≤ value && value ≤ 2147483647

theorem unsigned_toDigits (value : Nat) :
    unsigned (Nat.toDigits 10 value) = some (value : Int) := by
  have allDigits : (Nat.toDigits 10 value).takeWhile Char.isDigit =
      Nat.toDigits 10 value := by
    rw [List.takeWhile_eq_self_iff]
    intro c member
    exact Nat.isDigit_of_mem_toDigits (by decide) (by decide) member
  rw [unsigned, allDigits, if_neg Nat.toDigits_ne_nil, Nat.ofDigitChars_ten_toDigits]

theorem signed_dropWhile_of_isDigit {c : Char} (isDigit : c.isDigit = true)
    (rest : List Char) :
    signed ((c :: rest).dropWhile isSpace) = unsigned (c :: rest) := by
  have range := Char.isDigit_iff_toNat.mp isDigit
  change 48 ≤ c.toNat ∧ c.toNat ≤ 57 at range
  have notSpace : isSpace c = false := by
    rw [isSpace, Bool.or_eq_false_iff]
    constructor
    · rw [beq_eq_false_iff_ne]
      rintro rfl
      exact absurd range.1 (by decide)
    · simp
      omega
  rw [List.dropWhile_cons_of_neg (by simp [notSpace])]
  unfold signed
  split
  · rename_i same
    cases same
    exact absurd isDigit (by decide)
  · rename_i same
    cases same
    exact absurd isDigit (by decide)
  · rfl

/-- An integer in the range of `int` that is written in decimal is read back. -/
theorem stoi_repr {value : Int} (lower : -2147483648 ≤ value)
    (upper : value ≤ 2147483647) : stoi value.repr = some value := by
  have read : signed (value.repr.toList.dropWhile isSpace) = some value := by
    cases value with
    | ofNat value =>
        change signed (value.repr.toList.dropWhile isSpace) = _
        rw [Nat.toList_repr]
        rcases List.exists_cons_of_ne_nil (Nat.toDigits_ne_nil (n := value) (b := 10))
          with ⟨c, rest, isDigits⟩
        have isDigit := Nat.isDigit_of_mem_toDigits (n := value) (b := 10) (c := c)
          (by decide) (by decide) (by simp [isDigits])
        rw [isDigits, signed_dropWhile_of_isDigit isDigit, ← isDigits,
          unsigned_toDigits]
        rfl
    | negSucc value =>
        change signed (("-" ++ (value + 1).repr).toList.dropWhile isSpace) = _
        rw [String.toList_append, Nat.toList_repr]
        change (unsigned (Nat.toDigits 10 (value + 1))).map Neg.neg = _
        rw [unsigned_toDigits]
        rfl
  rw [stoi, read, Option.filter_some, if_pos]
  simp [lower, upper]

/-! ## The clients -/

/-- What the network answers a client: whether the host is resolved and connected to,
and what `send` or `write` returns for a frame. -/
structure Network where
  connected : Bool
  written : Int
  written_le : written ≤ 12

inductive Protocol
  | modbus
  | dnp3
  | iec104
  | unknown
  deriving DecidableEq, Repr

/-- How a run of the program ends: with an exit code and the bytes that left the
machine, with an exception, or not, as a server. -/
inductive Outcome
  | returned (exitCode : Int) (wire : List UInt8)
  | thrown
  | serving (protocol : Protocol) (port : Int)
  deriving DecidableEq, Repr

namespace Modbus.Client

def runClient (network : Network) (fn : UInt8) (addr val : UInt16) : Outcome :=
  if !network.connected then
    .returned 1 []
  else if network.written < 0 then
    .returned 1 []
  else
    .returned 0 ((requestFrame fn addr val).take network.written.toNat)

end Modbus.Client

namespace DNP3

/-- The result of `write` is not looked at. -/
def runClient (network : Network) (func : UInt8) : Outcome :=
  if !network.connected then
    .returned 1 []
  else
    .returned 0 ((buildFrame func).take network.written.toNat)

end DNP3

namespace IEC104

/-- The object address is fixed. -/
def runClient (network : Network) (typeId : UInt8) : Outcome :=
  if !network.connected then
    .returned 1 []
  else
    .returned 0 ((buildFrame typeId 16).take network.written.toNat)

end IEC104

/-! ## The command line -/

inductive Mode
  | startServer
  | request
  | invalid
  deriving DecidableEq, Repr

def parseMode (s : String) : Mode :=
  if s = "start-server" then .startServer
  else if s = "request" then .request
  else .invalid

def parseProtocol (s : String) : Protocol :=
  if s = "modbus" then .modbus
  else if s = "dnp3" then .dnp3
  else if s = "iec104" then .iec104
  else .unknown

def usage : Outcome := .returned 1 []

/-- The branch for requests, from the function code on. -/
def runRequest (network : Network) : Protocol → List String → Outcome
  | _, [] => usage
  | protocol, fnText :: operands =>
      match stoi fnText with
      | none => .thrown
      | some fn =>
          let fn := UInt8.ofInt fn
          match protocol with
          | .modbus =>
              match operands with
              | addrText :: valText :: _ =>
                  match stoi addrText, stoi valText with
                  | some addr, some val =>
                      Modbus.Client.runClient network fn (UInt16.ofInt addr)
                        (UInt16.ofInt val)
                  | _, _ => .thrown
              | _ => usage
          | .dnp3 => DNP3.runClient network fn
          -- the type id is the same argument, read and narrowed once more
          | .iec104 => IEC104.runClient network fn
          | .unknown => usage

def runCli (network : Network) : List String → Outcome
  | _ :: modeName :: protocolName :: portText :: operands =>
      match stoi portText with
      | none => .thrown
      | some port =>
          match parseMode modeName, parseProtocol protocolName with
          | .invalid, _ => usage
          | _, .unknown => usage
          | .startServer, protocol => .serving protocol port
          | .request, protocol => runRequest network protocol operands
  | _ => usage

/-! ## What is asked for -/

inductive Asked
  | modbus (fn addr val : Int)
  | dnp3 (fn : Int)
  | iec104 (typeId : Int)
  deriving DecidableEq, Repr

namespace Asked

def ofOperands : Protocol → List String → Option Asked
  | .modbus, fn :: addr :: val :: _ => do
      return .modbus (← stoi fn) (← stoi addr) (← stoi val)
  | .dnp3, fn :: _ => (stoi fn).map .dnp3
  | .iec104, typeId :: _ => (stoi typeId).map .iec104
  | _, _ => none

def ofArguments : List String → Option Asked
  | _ :: _ :: protocolName :: _ :: operands =>
      ofOperands (parseProtocol protocolName) operands
  | _ => none

def InRange : Asked → Prop
  | .modbus fn addr val =>
      (0 ≤ fn ∧ fn < 256) ∧ (0 ≤ addr ∧ addr < 65536) ∧ (0 ≤ val ∧ val < 65536)
  | .dnp3 fn => 0 ≤ fn ∧ fn < 256
  | .iec104 typeId => 0 ≤ typeId ∧ typeId < 256

def CarriedBy (wire : List UInt8) : Asked → Prop
  | .modbus fn addr val =>
      wire.length = 12 ∧ ((Modbus.decodeMbapPdu wire).function.toNat : Int) = fn ∧
        ((Modbus.decodeMbapPdu wire).address.toNat : Int) = addr ∧
        ((Modbus.decodeMbapPdu wire).value.toNat : Int) = val
  | .dnp3 fn => wire.length = 12 ∧ ((wire.getD 6 0).toNat : Int) = fn
  | .iec104 typeId => wire.length = 12 ∧ ((wire.getD 6 0).toNat : Int) = typeId

def NoticedAsUnsent (network : Network) : Asked → Prop
  | .modbus _ _ _ => network.connected = false ∨ network.written < 0
  | .dnp3 _ => network.connected = false
  | .iec104 _ => network.connected = false

instance : (asked : Asked) → Decidable asked.InRange
  | .modbus _ _ _ => inferInstanceAs (Decidable ((_ ∧ _) ∧ (_ ∧ _) ∧ _ ∧ _))
  | .dnp3 _ => inferInstanceAs (Decidable (_ ∧ _))
  | .iec104 _ => inferInstanceAs (Decidable (_ ∧ _))

instance (network : Network) :
    (asked : Asked) → Decidable (asked.NoticedAsUnsent network)
  | .modbus _ _ _ => inferInstanceAs (Decidable (_ ∨ _))
  | .dnp3 _ => inferInstanceAs (Decidable (_ = _))
  | .iec104 _ => inferInstanceAs (Decidable (_ = _))

def send (network : Network) : Asked → Outcome
  | .modbus fn addr val =>
      Modbus.Client.runClient network (UInt8.ofInt fn) (UInt16.ofInt addr)
        (UInt16.ofInt val)
  | .dnp3 fn => DNP3.runClient network (UInt8.ofInt fn)
  | .iec104 typeId => IEC104.runClient network (UInt8.ofInt typeId)

def frame : Asked → List UInt8
  | .modbus fn addr val =>
      Modbus.Client.requestFrame (UInt8.ofInt fn) (UInt16.ofInt addr) (UInt16.ofInt val)
  | .dnp3 fn => DNP3.buildFrame (UInt8.ofInt fn)
  | .iec104 typeId => IEC104.buildFrame (UInt8.ofInt typeId) 16

theorem length_frame (asked : Asked) : asked.frame.length = 12 := by
  cases asked <;> rfl

theorem send_eq (network : Network) (asked : Asked) :
    asked.NoticedAsUnsent network ∧ asked.send network = .returned 1 [] ∨
      ¬asked.NoticedAsUnsent network ∧
        asked.send network = .returned 0 (asked.frame.take network.written.toNat) := by
  cases connected : network.connected with
  | false => cases asked <;> simp [NoticedAsUnsent, send, connected,
      Modbus.Client.runClient, DNP3.runClient, IEC104.runClient]
  | true =>
      cases asked with
      | modbus fn addr val =>
          by_cases failed : network.written < 0
          · simp [NoticedAsUnsent, send, connected, failed, Modbus.Client.runClient]
          · simp [NoticedAsUnsent, send, connected, failed, Modbus.Client.runClient,
              frame]
      | dnp3 fn => simp [NoticedAsUnsent, send, connected, DNP3.runClient, frame]
      | iec104 typeId => simp [NoticedAsUnsent, send, connected, IEC104.runClient, frame]

theorem length_of_carriedBy {asked : Asked} {wire : List UInt8}
    (carried : asked.CarriedBy wire) : wire.length = 12 := by
  cases asked <;> exact carried.1

theorem carriedBy_frame_iff (asked : Asked) :
    asked.CarriedBy asked.frame ↔ asked.InRange := by
  cases asked with
  | modbus fn addr val =>
      simp only [CarriedBy, frame, Modbus.Client.requestFrame_eq, Modbus.decode_encode,
        Modbus.length_encodeMbapPdu, true_and, Bytes.toNat_ofInt8_eq_iff,
        Bytes.toNat_ofInt16_eq_iff, InRange]
  | dnp3 fn =>
      refine (and_iff_right rfl).trans ?_
      exact Bytes.toNat_ofInt8_eq_iff fn
  | iec104 typeId =>
      refine (and_iff_right rfl).trans ?_
      exact Bytes.toNat_ofInt8_eq_iff typeId

theorem take_frame {network : Network} (isWhole : network.written = 12)
    (asked : Asked) : asked.frame.take network.written.toNat = asked.frame := by
  rw [isWhole]
  exact List.take_of_length_le (length_frame asked).le

theorem carriedBy_take_iff (network : Network) (asked : Asked) :
    asked.CarriedBy (asked.frame.take network.written.toNat) ↔
      network.written = 12 ∧ asked.InRange := by
  have atMost := network.written_le
  constructor
  · intro carried
    have whole := length_of_carriedBy carried
    rw [List.length_take, length_frame] at whole
    have isWhole : network.written = 12 := by omega
    rw [take_frame isWhole] at carried
    exact ⟨isWhole, (carriedBy_frame_iff asked).mp carried⟩
  · rintro ⟨isWhole, inRange⟩
    rw [take_frame isWhole]
    exact (carriedBy_frame_iff asked).mpr inRange

end Asked

/-! ## Requests that are sent as asked -/

/-- The program returns an error and has sent nothing, or it has sent a frame with
exactly the integers of its arguments. -/
def SendsAsAsked (asked : Option Asked) (outcome : Outcome) : Prop :=
  (∃ exitCode ≠ 0, outcome = .returned exitCode []) ∨
    ∃ request ∈ asked, ∃ exitCode wire,
      outcome = .returned exitCode wire ∧ request.CarriedBy wire

theorem sendsAsAsked_usage (asked : Option Asked) : SendsAsAsked asked usage :=
  .inl ⟨1, by decide, rfl⟩

theorem sendsAsAsked_send_iff (network : Network) (asked : Asked) :
    SendsAsAsked (some asked) (asked.send network) ↔
      asked.NoticedAsUnsent network ∨ network.written = 12 ∧ asked.InRange := by
  rcases asked.send_eq network with ⟨noticed, gaveUp⟩ | ⟨notNoticed, handedOver⟩
  · rw [gaveUp]
    exact iff_of_true (sendsAsAsked_usage _) (.inl noticed)
  · rw [handedOver, or_iff_right notNoticed, ← Asked.carriedBy_take_iff]
    constructor
    · rintro (⟨exitCode, nonzero, equal⟩ | ⟨request, isRequest, exitCode, wire, equal,
        carried⟩)
      · rw [Outcome.returned.injEq] at equal
        exact absurd equal.1.symm nonzero
      · cases equal
        cases isRequest
        exact carried
    · intro carried
      exact .inr ⟨asked, rfl, 0, _, rfl, carried⟩

/-- The arguments that the usage line names as numbers: the port, the code and, for
Modbus, the address and the value. -/
def numericArguments (argv : List String) : List String :=
  match parseProtocol (argv.getD 2 "") with
  | .modbus => (argv.drop 3).take 4
  | _ => (argv.drop 3).take 2

theorem runRequest_eq (network : Network) (protocol : Protocol) {operands : List String}
    (numeric : ∀ text ∈ operands.take (if protocol = .modbus then 3 else 1),
      (stoi text).isSome = true) :
    runRequest network protocol operands =
      match Asked.ofOperands protocol operands with
      | none => usage
      | some asked => asked.send network := by
  cases operands with
  | nil => cases protocol <;> rfl
  | cons fnText operands =>
      have fnNumeric : (stoi fnText).isSome = true := by
        apply numeric
        split <;> simp
      rcases Option.isSome_iff_exists.mp fnNumeric with ⟨fn, isFn⟩
      cases protocol with
      | modbus =>
          rcases operands with _ | ⟨addrText, _ | ⟨valText, operands⟩⟩
          · simp [runRequest, Asked.ofOperands, isFn]
          · simp [runRequest, Asked.ofOperands, isFn]
          · rcases Option.isSome_iff_exists.mp (numeric addrText (by simp)) with
              ⟨addr, isAddr⟩
            rcases Option.isSome_iff_exists.mp (numeric valText (by simp)) with
              ⟨val, isVal⟩
            simp [runRequest, Asked.ofOperands, isFn, isAddr, isVal, Asked.send]
      | dnp3 => simp [runRequest, Asked.ofOperands, isFn, Asked.send]
      | iec104 => simp [runRequest, Asked.ofOperands, isFn, Asked.send]
      | unknown => simp [runRequest, Asked.ofOperands, isFn]

theorem runCli_of_request (network : Network) {argv : List String}
    (isRequest : argv[1]? = some "request")
    (numeric : ∀ text ∈ numericArguments argv, (stoi text).isSome = true) :
    runCli network argv =
      match Asked.ofArguments argv with
      | none => usage
      | some asked => asked.send network := by
  rcases argv with _ | ⟨program, _ | ⟨modeName, _ | ⟨protocolName, _ | ⟨portText,
    operands⟩⟩⟩⟩
  · rfl
  · rfl
  · rfl
  · rfl
  · have isMode : parseMode modeName = .request := by
      rw [Option.some.inj isRequest]
      rfl
    have arguments : numericArguments (program :: modeName :: protocolName ::
          portText :: operands) =
        portText ::
          operands.take (if parseProtocol protocolName = .modbus then 3 else 1) := by
      simp only [numericArguments, List.getD_cons_succ, List.getD_cons_zero,
        List.drop_succ_cons, List.drop_zero]
      cases parseProtocol protocolName <;> rfl
    rw [arguments, List.forall_mem_cons] at numeric
    rcases Option.isSome_iff_exists.mp numeric.1 with ⟨port, isPort⟩
    have handed := runRequest_eq network (parseProtocol protocolName) numeric.2
    simp only [runCli, isPort, isMode, Asked.ofArguments]
    rw [← handed]
    cases protocol : parseProtocol protocolName with
    | unknown =>
        rw [protocol] at handed
        rw [handed]
        cases operands <;> rfl
    | modbus => rfl
    | dnp3 => rfl
    | iec104 => rfl

/-- A request is answered with an error and nothing is sent, or its frame carries
exactly the integers of the command line, if and only if its client notices that
nothing can be sent, or the network takes the whole frame and every integer fits
its field. -/
theorem request_sent_as_asked_iff (network : Network) (argv : List String)
    (isRequest : argv[1]? = some "request")
    (numeric : ∀ text ∈ numericArguments argv, (stoi text).isSome = true) :
    SendsAsAsked (Asked.ofArguments argv) (runCli network argv) ↔
      ∀ asked ∈ Asked.ofArguments argv,
        asked.NoticedAsUnsent network ∨ network.written = 12 ∧ asked.InRange := by
  rw [runCli_of_request network isRequest numeric]
  cases Asked.ofArguments argv with
  | none => exact iff_of_true (sendsAsAsked_usage none) (by simp)
  | some asked =>
      simp only [Option.mem_some_iff, forall_eq']
      exact sendsAsAsked_send_iff network asked

theorem write_sent_as_asked :
    SendsAsAsked
      (Asked.ofArguments ["scada-sim", "request", "modbus", "502", "6", "16", "1"])
      (runCli ⟨true, 12, Int.le_refl 12⟩
        ["scada-sim", "request", "modbus", "502", "6", "16", "1"]) :=
  (request_sent_as_asked_iff ⟨true, 12, Int.le_refl 12⟩
    ["scada-sim", "request", "modbus", "502", "6", "16", "1"] rfl (by decide)).mpr
    (by
      intro asked isAsked
      have isWrite : some (Asked.modbus 6 16 1) = some asked := isAsked
      rw [← Option.some.inj isWrite]
      exact .inr ⟨rfl, by decide⟩)

/-! ## The HTTP handlers -/

namespace Api

/-- The command that is run for a Modbus request with code `fc`, which may be any
integer. -/
def modbusHandler (fc : Int) : List String :=
  ["scada-sim", "request", "modbus", "502", toString fc, "10", "1"]

def dnp3Handler (fc : Int) : List String :=
  ["scada-sim", "request", "dnp3", "20000", toString fc]

variable {fc : Int} (lower : -2147483648 ≤ fc) (upper : fc ≤ 2147483647)
include lower upper

theorem runCli_modbusHandler (network : Network) :
    runCli network (modbusHandler fc) = (Asked.modbus fc 10 1).send network := by
  have port : stoi "502" = some 502 := by decide
  have addr : stoi "10" = some 10 := by decide
  have val : stoi "1" = some 1 := by decide
  simp [modbusHandler, runCli, parseMode, parseProtocol, runRequest, port, addr, val,
    stoi_repr lower upper, Asked.send]

theorem runCli_dnp3Handler (network : Network) :
    runCli network (dnp3Handler fc) = (Asked.dnp3 fc).send network := by
  have port : stoi "20000" = some 20000 := by decide
  simp [dnp3Handler, runCli, parseMode, parseProtocol, runRequest, port,
    stoi_repr lower upper, Asked.send]

end Api

/-- Code 262 is sent as the write 6. -/
theorem request_sent_as_write :
    ¬∀ (network : Network) (argv : List String), argv[1]? = some "request" →
      (∀ text ∈ numericArguments argv, (stoi text).isSome = true) →
      SendsAsAsked (Asked.ofArguments argv) (runCli network argv) := by
  intro always
  have sent := always ⟨true, 12, Int.le_refl 12⟩
    ["scada-sim", "request", "modbus", "502", "262", "10", "1"] rfl (by decide)
  change SendsAsAsked (some (.modbus 262 10 1))
    (Asked.send ⟨true, 12, Int.le_refl 12⟩ (.modbus 262 10 1)) at sent
  rw [sendsAsAsked_send_iff] at sent
  exact absurd sent (by decide)

end Prism.Simulator

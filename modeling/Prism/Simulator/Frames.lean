import Prism.Simulator.Modbus

/-! # The requests the simulator's clients send

The frames of the DNP3 and the IEC-104 client, and the requests of all three
clients as one type.
-/

namespace Prism.Simulator

def zeroFrame (size : Nat) : List UInt8 := List.replicate size 0

namespace DNP3

def buildFrame (func : UInt8) : List UInt8 :=
  let f := zeroFrame 12
  let f := f.set 2 0x40         -- link DIR=1 master→outstation
  let f := f.set 7 0xC0         -- app control: FIR|FIN, master request
  f.set 6 func                  -- function code

end DNP3

namespace IEC104

def buildFrame (typeId : UInt8) (ioa : UInt16) : List UInt8 :=
  let f := zeroFrame 12
  let f := f.set 0 0x68         -- start
  let f := f.set 1 0x0A         -- length = 10 bytes after this
  let f := f.set 2 0x00
  let f := f.set 3 0x00
  let f := f.set 4 0x00
  let f := f.set 5 0x00
  let f := f.set 6 typeId
  let f := f.set 7 0x01         -- VSQ (1 element)
  let f := f.set 8 0x06         -- COT = activation (request)
  let f := f.set 9 0x01         -- ASDU addr (dummy)
  let f := f.set 10 (ioa &&& 0xFF).toUInt8
  f.set 11 ((ioa >>> 8) &&& 0xFF).toUInt8

end IEC104

/-! ## Requests -/

/-- A request of one of the clients. -/
inductive Request
  | modbus (fn : UInt8) (addr val : UInt16)
  | dnp3 (func : UInt8)
  | iec104 (typeId : UInt8) (ioa : UInt16)

namespace Request

def frame : Request → List UInt8
  | .modbus fn addr val => Modbus.Client.requestFrame fn addr val
  | .dnp3 func => DNP3.buildFrame func
  | .iec104 typeId ioa => IEC104.buildFrame typeId ioa

def port : Request → UInt16
  | .modbus .. => 502
  | .dnp3 .. => 20000
  | .iec104 .. => 2404

def protocol : Request → String
  | .modbus .. => "Modbus"
  | .dnp3 .. => "DNP3"
  | .iec104 .. => "IEC104"

def code : Request → UInt8
  | .modbus fn _ _ => fn
  | .dnp3 func => func
  | .iec104 typeId _ => typeId

/-- Type id zero is no ASDU type. -/
def IsTyped : Request → Prop
  | .modbus .. => True
  | .dnp3 .. => True
  | .iec104 typeId _ => typeId ≠ 0

end Request

end Prism.Simulator

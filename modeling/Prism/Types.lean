/-! # Shared data types

The records of `prism.hpp` that the stages of the pipeline pass to each other.
A `double` is left as a type parameter; see
`Prism.Foundation.DoubleArithmetic`.
-/

namespace Prism

/-! ## Time

`steady_clock` counts nanoseconds. Time points and durations are unbounded
integers here: the 64-bit counter of the source lasts for centuries. -/

abbrev Timestamp := Int

abbrev Duration := Int

/-- `std::chrono::milliseconds`, in clock ticks. -/
def milliseconds (count : Int) : Duration := count * 1000000

/-! ## Packets and records -/

structure RawPacket where
  timestamp : Timestamp := 0
  payload : List UInt8 := []
  srcIp : String := ""
  dstIp : String := ""
  srcPort : UInt16 := 0
  dstPort : UInt16 := 0
  deriving DecidableEq, Repr

structure ParsedRecord where
  timestamp : Timestamp := 0
  protocol : String := ""
  isRequest : Bool := true
  isWrite : Bool := false
  functionCode : UInt8 := 0
  address : UInt16 := 0
  deriving DecidableEq, Repr

/-- What the window manager looks at in a record. It never inspects anything
else, so its model is stated for any timed record; runs can then be repeated on
records numbered by arrival to tell equal records apart. -/
class Timestamped (Record : Type) where
  timestamp : Record → Timestamp

export Timestamped (timestamp)

instance : Timestamped ParsedRecord where
  timestamp := ParsedRecord.timestamp

instance [Timestamped Record] : Timestamped (Record × Nat) where
  timestamp numbered := timestamp numbered.1

structure Window (Record : Type := ParsedRecord) where
  startTime : Timestamp := 0
  endTime : Timestamp := 0
  records : List Record := []
  deriving DecidableEq, Repr

/-! ## Features, scores and decisions -/

structure FeatureVector (Double : Type) where
  values : List Double
  deriving Repr

structure DetectionResult (Double : Type) where
  hstScore : Double
  burstScore : Double
  deriving Repr

inductive RiskLevel
  | Low
  | Medium
  | High
  deriving DecidableEq, Repr

structure RiskDecision (Double : Type) where
  level : RiskLevel := .Low
  escalate : Bool := false
  restrictWrites : Bool := false
  probability : Double
  deriving Repr

end Prism

import Mathlib.Data.List.Dedup
import Prism.Foundation.DoubleArithmetic
import Prism.Types

/-! # The feature extractor

`FeatureExtractor::compute`, over any arithmetic of doubles and any iteration
order of the three hash maps.
-/

namespace Prism.Features

open DoubleArithmetic

/-! ## Counting maps -/

/-- The order in which an `unordered_map` visits its keys: some order of the
distinct ones, which the insertions may influence. -/
structure VisitOrder (Key : Type) [DecidableEq Key] where
  visit : List Key → List Key
  visit_perm : ∀ keys, (visit keys).Perm keys.dedup

/-- The keys in the order of their last insertions. -/
def VisitOrder.byInsertion (Key : Type) [DecidableEq Key] : VisitOrder Key where
  visit := List.dedup
  visit_perm := fun keys => List.Perm.refl keys.dedup

/-- The values of a map after `counts[key]++` for each key, in visiting order. -/
def VisitOrder.counts [DecidableEq Key] (order : VisitOrder Key) (keys : List Key) :
    List Nat :=
  (order.visit keys).map fun key => keys.count key

/-- The iteration orders of `funcCounts`, `addrCounts` and `protoCounts`. -/
structure VisitOrders where
  functions : VisitOrder UInt8
  addresses : VisitOrder UInt16
  protocols : VisitOrder String

def VisitOrders.byInsertion : VisitOrders where
  functions := .byInsertion UInt8
  addresses := .byInsertion UInt16
  protocols := .byInsertion String

/-! ## The features -/

namespace FeatureExtractor

variable {Double : Type} [DoubleArithmetic Double]

/-- `std::chrono::duration<double>` of a number of clock ticks. -/
def seconds (duration : Duration) : Double :=
  ofInt duration / ofInt 1000000000

/-- The loop that finds the greatest count, starting at zero. -/
def maxCount (counts : List Nat) : Double :=
  counts.foldl (fun greatest v => if greatest < ofInt v then ofInt v else greatest) 0.0

/-- The loop over the address counts. -/
def entropy (total : Double) (counts : List Nat) : Double :=
  counts.foldl
    (fun entropy v =>
      let p := ofInt v / total
      if 0.0 < p then entropy - p * log2 p else entropy)
    0.0

def writeCount (records : List ParsedRecord) : Double :=
  records.foldl (fun count rec => if rec.isWrite then count + 1.0 else count) 0.0

def deltas (records : List ParsedRecord) : List Double :=
  List.zipWith (fun later earlier => seconds (later.timestamp - earlier.timestamp))
    records.tail records

def meanIA (deltas : List Double) : Double :=
  deltas.foldl (· + ·) 0.0 / ofInt deltas.length

def stdIA (deltas : List Double) : Double :=
  let mean := meanIA deltas
  let sqSum := deltas.foldl (fun sum d => sum + (d - mean) * (d - mean)) 0.0
  sqrt (sqSum / ofInt deltas.length)

def compute (orders : VisitOrders) (window : Window) : FeatureVector Double :=
  let records := window.records
  let n := records.length
  if n = 0 then
    { values := List.replicate 8 0.0 }
  else
    let funcCounts := orders.functions.counts (records.map ParsedRecord.functionCode)
    let addrCounts := orders.addresses.counts (records.map ParsedRecord.address)
    let protoCounts := orders.protocols.counts (records.map ParsedRecord.protocol)
    let total : Double := ofInt n
    let writeRatio := writeCount records / total
    let funcConc := maxCount funcCounts / total
    let entropy := entropy total addrCounts
    let protoDom := maxCount protoCounts / total
    let count := total
    let meanIA := if 1 < n then meanIA (deltas records) else 0.0
    let stdIA := if 1 < n then stdIA (deltas records) else 0.0
    let targetDensity := maxCount addrCounts / total
    { values :=
        [count, writeRatio, funcConc, entropy, protoDom, meanIA, stdIA, targetDensity] }

/-- Detectors that ask for eight features always find them. -/
@[simp] theorem length_compute (orders : VisitOrders) (window : Window) :
    (compute orders window : FeatureVector Double).values.length = 8 := by
  by_cases empty : window.records.length = 0
  · simp [compute, empty]
  · simp [compute, empty]

end FeatureExtractor

end Prism.Features

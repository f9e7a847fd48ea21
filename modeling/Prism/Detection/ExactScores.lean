import Prism.Detection.Detectors
import Prism.Feature.Distributions

/-! # The scores in exact arithmetic

What the two detectors make of the features of a window. The first one weighs
writes, the second one measures how far the variance of the inter-arrival times
is from the one of normal polling.
-/

namespace Prism.Detection

open Prism.Features

namespace HalfSpaceTrees

noncomputable def writeRatio (records : List ParsedRecord) : ℝ :=
  records.countP ParsedRecord.isWrite / records.length

/-- The share of the most frequent function code. -/
noncomputable def funcConc (orders : VisitOrders) (records : List ParsedRecord) : ℝ :=
  FeatureExtractor.maxCount
      (orders.functions.counts (records.map ParsedRecord.functionCode)) /
    records.length

noncomputable def addressEntropy (orders : VisitOrders)
    (records : List ParsedRecord) : ℝ :=
  FeatureExtractor.entropy records.length
    (orders.addresses.counts (records.map ParsedRecord.address))

theorem writeRatio_nonneg (records : List ParsedRecord) : 0 ≤ writeRatio records :=
  div_nonneg (Nat.cast_nonneg _) (Nat.cast_nonneg _)

theorem funcConc_eq (orders : VisitOrders) (records : List ParsedRecord) :
    funcConc orders records =
      orders.functions.greatestShare (records.map ParsedRecord.functionCode) := by
  rw [VisitOrder.greatestShare, List.length_map, funcConc]

theorem addressEntropy_eq (orders : VisitOrders) (records : List ParsedRecord) :
    addressEntropy orders records =
      orders.addresses.keyEntropy (records.map ParsedRecord.address) := by
  rw [VisitOrder.keyEntropy, List.length_map, addressEntropy]

theorem score_compute (orders : VisitOrders) (window : Window) :
    score (FeatureExtractor.compute orders window : FeatureVector ℝ) =
      writeRatio window.records * 50 + funcConc orders window.records * (5 / 2) +
        addressEntropy orders window.records * writeRatio window.records * 20 := by
  rw [FeatureExtractor.compute_real, funcConc_eq, addressEntropy_eq]
  change
    writeRatio window.records * (50.0 : ℝ) + _ * (2.5 : ℝ) +
      _ * writeRatio window.records * (20.0 : ℝ) = _
  norm_num

theorem funcConc_nonneg (orders : VisitOrders) (records : List ParsedRecord) :
    0 ≤ funcConc orders records := by
  rw [funcConc_eq]
  exact orders.functions.greatestShare_nonneg _

theorem funcConc_le_one (orders : VisitOrders) (records : List ParsedRecord) :
    funcConc orders records ≤ 1 := by
  rw [funcConc_eq]
  exact orders.functions.greatestShare_le_one _

theorem addressEntropy_nonneg (orders : VisitOrders) (records : List ParsedRecord) :
    0 ≤ addressEntropy orders records := by
  rw [addressEntropy_eq]
  exact orders.addresses.keyEntropy_nonneg _

end HalfSpaceTrees

namespace BurstDetector

noncomputable def currentVariance (records : List ParsedRecord) : ℝ :=
  Statistics.variance (FeatureExtractor.deltas records)

theorem currentVariance_nonneg (records : List ParsedRecord) :
    0 ≤ currentVariance records :=
  Statistics.variance_nonneg _

theorem currentVariance_eq (records : List ParsedRecord) :
    currentVariance records =
      ((Statistics.spread (FeatureExtractor.gaps records) : Int) : ℝ) /
        (1000000000 ^ 2 * ((records.length - 1 : Nat) : ℝ) ^ 2) :=
  FeatureExtractor.variance_deltas records

theorem currentVariance_of_length_le_two {records : List ParsedRecord}
    (few : records.length ≤ 2) : currentVariance records = 0 := by
  have oneGap : (FeatureExtractor.gaps records).length ≤ 1 := by
    rw [FeatureExtractor.length_gaps]
    omega
  rw [currentVariance_eq, Statistics.spread_of_length_le_one oneGap, Int.cast_zero,
    zero_div]

theorem stdIA_eq {records : List ParsedRecord} :
    (if 1 < records.length then FeatureExtractor.stdIA (FeatureExtractor.deltas records)
      else 0.0 : ℝ) = Real.sqrt (currentVariance records) := by
  split
  · exact FeatureExtractor.stdIA_real _
  · have few : records.length - 1 = 0 := by omega
    rw [currentVariance_eq, few]
    norm_num

theorem score_compute (orders : VisitOrders) (window : Window) :
    score (FeatureExtractor.compute orders window : FeatureVector ℝ) =
      |currentVariance window.records - 1 / 400| / (51 / 1000) := by
  rw [FeatureExtractor.compute_real]
  change
    |(if 1 < window.records.length then
          FeatureExtractor.stdIA (FeatureExtractor.deltas window.records)
        else (0.0 : ℝ)) *
        (if 1 < window.records.length then
          FeatureExtractor.stdIA (FeatureExtractor.deltas window.records)
        else (0.0 : ℝ)) - (0.05 : ℝ) * (0.05 : ℝ)| /
      ((0.001 : ℝ) + (0.05 : ℝ)) = _
  rw [stdIA_eq, Real.mul_self_sqrt (currentVariance_nonneg _)]
  norm_num

/-- From a baseline of 10 on, a score is reached by a large variance and not by a
small one. -/
theorem le_score_compute_iff (orders : VisitOrders) (window : Window) {bound : ℝ}
    (large : 10 ≤ bound) :
    bound ≤ score (FeatureExtractor.compute orders window : FeatureVector ℝ) ↔
      1 / 400 + 51 / 1000 * bound ≤ currentVariance window.records := by
  have nonneg := currentVariance_nonneg window.records
  rw [score_compute, le_div_iff₀ (by norm_num), le_abs]
  constructor
  · intro either
    rcases either with above | below <;> linarith
  · intro above
    exact .inl (by linarith)

end BurstDetector

end Prism.Detection

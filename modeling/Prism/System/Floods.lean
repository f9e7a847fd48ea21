import Prism.Detection.ExactScores
import Prism.Main.Pipeline
import Prism.Risk.Hysteresis
import Prism.Windowing.Coverage

/-! # Floods

What PRISM makes of a window that is full of writes, and of one whose records
follow each other faster than a person could send them.
-/

namespace Prism.System

open Prism.Detection Prism.Features Prism.Main Prism.Risk Prism.Windowing

/-! ## Floods of writes -/

theorem fifteen_le_hstScore (orders : VisitOrders) {window : Window}
    (nonempty : window.records ≠ [])
    (flood : 3 * window.records.length ≤
      10 * window.records.countP ParsedRecord.isWrite) :
    15 ≤ (detect orders window : DetectionResult ℝ).hstScore := by
  have positive : 0 < (window.records.length : ℝ) :=
    Nat.cast_pos.mpr (List.length_pos_iff.mpr nonempty)
  have share : 3 / 10 ≤ HalfSpaceTrees.writeRatio window.records := by
    rw [HalfSpaceTrees.writeRatio, le_div_iff₀ positive]
    have cast : ((3 * window.records.length : Nat) : ℝ) ≤
        ((10 * window.records.countP ParsedRecord.isWrite : Nat) : ℝ) :=
      Nat.cast_le.mpr flood
    push_cast at cast
    linarith
  have funcRisk := HalfSpaceTrees.funcConc_nonneg orders window.records
  have entropy := HalfSpaceTrees.addressEntropy_nonneg orders window.records
  have sprayRisk := mul_nonneg entropy
    (HalfSpaceTrees.writeRatio_nonneg window.records)
  change 15 ≤ HalfSpaceTrees.score _
  rw [HalfSpaceTrees.score_compute]
  linarith

/-- A window with at least 30% of writes leads to a High decision, whatever else
it holds and whatever state the risk model is in. -/
theorem write_flood_is_caught (orders : VisitOrders) (window : Window)
    (model : RiskModel) (nonempty : window.records ≠ [])
    (flood : 3 * window.records.length ≤
      10 * window.records.countP ParsedRecord.isWrite) :
    let decision := (model.evaluate (detect orders window : DetectionResult ℝ)).2
    decision.level = .High ∧ decision.restrictWrites = true ∧
      decision.escalate = true ∧ 7 / 10 ≤ decision.probability := by
  intro decision
  have reached : RiskModel.tauOn ≤
      RiskModel.pMax (detect orders window : DetectionResult ℝ) :=
    RiskModel.tauOn_le_pMax (.inl (fifteen_le_hstScore orders nonempty flood))
  have on := model.evaluate_isOn_of_tauOn_le reached
  refine ⟨?_, ?_, ?_, ?_⟩
  · exact (RiskModel.evaluate_level_eq_high_iff model _).mpr on
  · exact (RiskModel.evaluate_restrictWrites model _).trans on
  · exact (RiskModel.decision_escalate _ _).trans on
  · rw [← RiskModel.tauOn_real]
    exact reached.trans_eq (RiskModel.decision_probability _ _).symm

/-- Two writes among five records, to a model in the middle of an alert. -/
theorem write_flood_is_caught_on_alert :
    let write : ParsedRecord := { isWrite := true, functionCode := 6 }
    let window : Window := { records := [{}, write, {}, write, {}] }
    (RiskModel.evaluate ⟨true⟩
      (detect .byInsertion window : DetectionResult ℝ)).2.level = .High :=
  (write_flood_is_caught .byInsertion _ ⟨true⟩ (List.cons_ne_nil _ _) (by decide)).1

/-! ## Floods of any kind -/

open FeatureExtractor (gaps deltas meanIA)

/-- Five or more records in time order, less than 0.1 s apart in the mean. -/
structure IsFlood (records : List ParsedRecord) : Prop where
  long : 5 ≤ records.length
  inOrder : records.Pairwise fun earlier later => earlier.timestamp ≤ later.timestamp
  fast : meanIA (deltas records) < (1 / 10 : ℝ)

/-- The variance of the inter-arrival times is at least 0.5125 square seconds. The
timestamps are in nanoseconds, and the spread is the variance of the gaps times
the square of their number. -/
def IsIrregular (records : List ParsedRecord) : Prop :=
  512500000000000000 * ((gaps records).length : Int) ^ 2 ≤
    Statistics.spread (gaps records)

instance (records : List ParsedRecord) : Decidable (IsIrregular records) :=
  inferInstanceAs (Decidable (_ ≤ _))

theorem meanIA_lt_iff {records : List ParsedRecord} (several : 1 < records.length) :
    meanIA (deltas records) < (1 / 10 : ℝ) ↔
      10 * (gaps records).sum < 1000000000 * ((gaps records).length : Int) := by
  have gapsPositive : 0 < ((records.length - 1 : Nat) : ℝ) :=
    Nat.cast_pos.mpr (by omega)
  rw [FeatureExtractor.meanIA_deltas, div_lt_iff₀ (by positivity),
    ← Int.cast_lt (R := ℝ), FeatureExtractor.length_gaps]
  push_cast
  constructor <;> intro lt <;> linarith

theorem ten_le_burstScore_iff (orders : VisitOrders) {window : Window}
    (several : 1 < window.records.length) :
    10 ≤ BurstDetector.score (FeatureExtractor.compute orders window : FeatureVector ℝ) ↔
      IsIrregular window.records := by
  have gapsPositive : 0 < ((window.records.length - 1 : Nat) : ℝ) :=
    Nat.cast_pos.mpr (by omega)
  rw [BurstDetector.le_score_compute_iff orders window le_rfl,
    BurstDetector.currentVariance_eq, le_div_iff₀ (by positivity), IsIrregular,
    ← Int.cast_le (R := ℝ), FeatureExtractor.length_gaps]
  push_cast
  constructor <;> intro le <;> linarith

/-- The burst detector flags a flood, with a probability of at least 0.5, exactly
if its gaps are irregular enough. -/
theorem flood_flagged_iff (orders : VisitOrders) (window : Window)
    (flood : IsFlood window.records) :
    let score : ℝ := BurstDetector.score (FeatureExtractor.compute orders window)
    (10 ≤ score ↔ IsIrregular window.records) ∧
      (1 / 2 ≤ RiskModel.sigmoid (score / 10) ↔ IsIrregular window.records) := by
  intro score
  have several : 1 < window.records.length := by
    have long := flood.long
    omega
  have reached : 10 ≤ score ↔ IsIrregular window.records :=
    ten_le_burstScore_iff orders several
  refine ⟨reached, ?_⟩
  rw [RiskModel.half_le_sigmoid_iff, ← reached, le_div_iff₀ (by norm_num), one_mul]

theorem IsFlood.not_isIrregular {records : List ParsedRecord} (flood : IsFlood records)
    (short : (gaps records).sum ≤ 5000000000) : ¬IsIrregular records := by
  have nonneg := FeatureExtractor.gaps_nonneg flood.inOrder
  have fast := (meanIA_lt_iff (by have long := flood.long; omega)).mp flood.fast
  have bounded := Statistics.spread_le_length_mul_sq_sum nonneg
  have totalNonneg := List.sum_nonneg nonneg
  rw [IsIrregular, not_le]
  have countPositive : 0 < ((gaps records).length : Int) := by
    rw [FeatureExtractor.length_gaps]
    have long := flood.long
    omega
  calc
    Statistics.spread (gaps records) ≤
        (gaps records).length * (gaps records).sum ^ 2 := bounded
    _ ≤ (gaps records).length * (5000000000 * (100000000 * (gaps records).length)) := by
        apply mul_le_mul_of_nonneg_left _ countPositive.le
        rw [sq]
        apply mul_le_mul short _ totalNonneg (by norm_num)
        linarith
    _ < 512500000000000000 * ((gaps records).length : Int) ^ 2 := by
        linarith [sq_nonneg ((gaps records).length : Int), pow_pos countPositive 2]

/-- Among the windows that the manager of `main` emits, the burst detector reaches
its baseline on no flood at all. -/
theorem emitted_flood_not_flagged (orders : VisitOrders) {stream : List ParsedRecord}
    {window : Window}
    (isWindow : window ∈ WindowManager.emittedWindows (milliseconds 5000)
      (milliseconds 1000) stream)
    (flood : IsFlood window.records) :
    ¬10 ≤ (BurstDetector.score (FeatureExtractor.compute orders window) : ℝ) := by
  have long := flood.long
  have nonempty : window.records ≠ [] := List.length_pos_iff.mp (by omega)
  have isFirst := List.head?_eq_some_head nonempty
  have isLast := List.getLast?_eq_some_getLast nonempty
  rw [ten_le_burstScore_iff orders (by omega)]
  apply flood.not_isIrregular
  rw [FeatureExtractor.sum_gaps isFirst isLast]
  exact WindowManager.timestamp_sub_le (by decide) isWindow (List.head_mem nonempty)
    (List.getLast_mem nonempty)

def recordsAt (times : List Timestamp) : List ParsedRecord :=
  times.map fun time => { timestamp := time }

/-- Sixty records at once and one that follows almost six seconds later. -/
theorem flood_flagged_iff_before_silence :
    let window : Window :=
      { records := recordsAt (List.replicate 60 0 ++ [5900000000]) }
    10 ≤ (BurstDetector.score (FeatureExtractor.compute .byInsertion window) : ℝ) := by
  intro window
  have several : 1 < window.records.length := by decide
  have flood : IsFlood window.records :=
    ⟨by decide, by decide +kernel, (meanIA_lt_iff several).mpr (by decide +kernel)⟩
  exact (flood_flagged_iff .byInsertion window flood).1.mpr (by decide +kernel)

/-- Five records, ten milliseconds apart, are not flagged. -/
theorem regular_flood_not_flagged :
    ¬∀ (orders : VisitOrders) (window : Window), IsFlood window.records →
      10 ≤ (BurstDetector.score (FeatureExtractor.compute orders window) : ℝ) := by
  intro everywhere
  let window : Window :=
    { records := recordsAt [0, 10000000, 20000000, 30000000, 40000000] }
  have several : 1 < window.records.length := by decide
  have flood : IsFlood window.records :=
    ⟨by decide, by decide, (meanIA_lt_iff several).mpr (by decide)⟩
  have irregular := (ten_le_burstScore_iff .byInsertion several).mp
    (everywhere .byInsertion window flood)
  exact absurd irregular (by decide)

end Prism.System

import Prism.Detection.ExactScores
import Prism.Windowing.Coverage

/-! # The timing of emitted windows

The records of an emitted window are in time order and within its length, which
bounds the two inter-arrival features and the score of the burst detector.
-/

namespace Prism.System

open Prism.Detection Prism.Features Prism.SlidingWindow Prism.Windowing
open FeatureExtractor (gaps deltas seconds)

/-! ## Records in time order -/

theorem records_inOrder {windowSize stepSize : Duration} (stepNonneg : 0 ≤ stepSize)
    {stream : List ParsedRecord} {window : Window}
    (isWindow : window ∈ WindowManager.emittedWindows windowSize stepSize stream) :
    window.records.Pairwise fun earlier later =>
      earlier.timestamp ≤ later.timestamp := by
  rcases List.mem_iff_getElem?.mp isWindow with ⟨index, atIndex⟩
  have filled := wellFilled_of_getElem? (WindowManager.startsAt_firstTime stream)
    (WindowManager.getElem?_windows stepNonneg atIndex)
  exact (accepted_inOrder timestamp stream).sublist filled.sublist

/-! ## Timestamps within a window -/

/-- Records in time order, any two of which are at most `width` apart. -/
structure WithinWidth (width : Duration) (records : List ParsedRecord) : Prop where
  inOrder : records.Pairwise fun earlier later => earlier.timestamp ≤ later.timestamp
  close : ∀ first ∈ records, ∀ last ∈ records, last.timestamp - first.timestamp ≤ width

theorem withinWidth_of_mem_emittedWindows {windowSize stepSize : Duration}
    (stepNonneg : 0 ≤ stepSize) {stream : List ParsedRecord} {window : Window}
    (isWindow : window ∈ WindowManager.emittedWindows windowSize stepSize stream) :
    WithinWidth windowSize window.records where
  inOrder := records_inOrder stepNonneg isWindow
  close := by
    intro first isFirst last isLast
    exact WindowManager.timestamp_sub_le stepNonneg isWindow isFirst isLast

namespace WithinWidth

variable {width : Duration} {records : List ParsedRecord}

theorem sum_gaps_le (within : WithinWidth width records) (nonempty : records ≠ []) :
    (gaps records).sum ≤ width := by
  rw [FeatureExtractor.sum_gaps (List.head?_eq_some_head nonempty)
    (List.getLast?_eq_some_getLast nonempty)]
  exact within.close _ (List.head_mem nonempty) _ (List.getLast_mem nonempty)

theorem gap_le (within : WithinWidth width records) :
    ∀ gap ∈ gaps records, 0 ≤ gap ∧ gap ≤ width := by
  intro gap member
  have nonneg := FeatureExtractor.gaps_nonneg within.inOrder
  have nonempty : records ≠ [] := by
    rintro rfl
    cases member
  refine ⟨nonneg gap member, ?_⟩
  exact (List.single_le_sum nonneg gap member).trans (within.sum_gaps_le nonempty)

theorem delta_le (within : WithinWidth width records) :
    ∀ delta ∈ (deltas records : List ℝ), 0 ≤ delta ∧ delta ≤ seconds width := by
  rw [FeatureExtractor.deltas_eq_map_seconds, List.forall_mem_map]
  intro gap member
  rcases within.gap_le gap member with ⟨nonneg, atMost⟩
  exact ⟨FeatureExtractor.seconds_nonneg nonneg, FeatureExtractor.seconds_mono atMost⟩

theorem currentVariance_le (within : WithinWidth width records) :
    BurstDetector.currentVariance records ≤ (seconds width : ℝ) ^ 2 / 4 := by
  have quarter := Statistics.four_mul_variance_le within.delta_le
  rw [sub_zero] at quarter
  rw [BurstDetector.currentVariance]
  linarith

theorem sqrt_currentVariance_le (within : WithinWidth width records)
    (nonempty : records ≠ []) :
    Real.sqrt (BurstDetector.currentVariance records) ≤ seconds width / 2 := by
  have widthNonneg : 0 ≤ width :=
    (List.sum_nonneg (FeatureExtractor.gaps_nonneg within.inOrder)).trans
      (within.sum_gaps_le nonempty)
  have nonneg := FeatureExtractor.seconds_nonneg widthNonneg
  have square : (seconds width : ℝ) ^ 2 / 4 = (seconds width / 2) ^ 2 := by ring
  apply Real.sqrt_le_iff.mpr
  exact ⟨by linarith, within.currentVariance_le.trans_eq square⟩

end WithinWidth

/-! ## The inter-arrival features -/

theorem values_five (orders : VisitOrders) (window : Window) :
    (FeatureExtractor.compute orders window).values.getD 5 (0 : ℝ) =
      if 1 < window.records.length then FeatureExtractor.meanIA (deltas window.records)
      else 0.0 := by
  rw [FeatureExtractor.compute_real]
  rfl

theorem values_six (orders : VisitOrders) (window : Window) :
    (FeatureExtractor.compute orders window).values.getD 6 (0 : ℝ) =
      Real.sqrt (BurstDetector.currentVariance window.records) := by
  rw [FeatureExtractor.compute_real, ← BurstDetector.stdIA_eq]
  rfl

theorem values_five_mul (orders : VisitOrders) {window : Window}
    (several : 1 < window.records.length) (nonempty : window.records ≠ []) :
    (FeatureExtractor.compute orders window).values.getD 5 (0 : ℝ) *
        (window.records.length - 1 : Nat) =
      seconds ((window.records.getLast nonempty).timestamp -
        (window.records.head nonempty).timestamp) := by
  have gapsPositive : 0 < ((window.records.length - 1 : Nat) : ℝ) :=
    Nat.cast_pos.mpr (by omega)
  rw [values_five, if_pos several, FeatureExtractor.meanIA_deltas,
    FeatureExtractor.sum_gaps (List.head?_eq_some_head nonempty)
      (List.getLast?_eq_some_getLast nonempty), FeatureExtractor.seconds_real]
  field_simp

/-- For every window that is emitted in any run, the records are in time order, so no
delta is negative. For more than one record, the mean inter-arrival time times the
number of gaps is the time from the first record to the last, which is at most the
window size, and the standard deviation is at most half the window size; for one
record both are zero. This bounds the score of the burst detector. -/
theorem timing_features_bounded (orders : VisitOrders) {windowSize stepSize : Duration}
    (stepPositive : 0 < stepSize) {stream : List ParsedRecord} {window : Window}
    (isWindow : window ∈ WindowManager.emittedWindows windowSize stepSize stream)
    (nonempty : window.records ≠ []) :
    let features : FeatureVector ℝ := FeatureExtractor.compute orders window
    let mean := features.values.getD 5 0
    let deviation := features.values.getD 6 0
    let n := window.records.length
    let total : ℝ := seconds ((window.records.getLast nonempty).timestamp -
      (window.records.head nonempty).timestamp)
    let width : ℝ := seconds windowSize
    (window.records.Pairwise fun earlier later =>
      earlier.timestamp ≤ later.timestamp) ∧
    (∀ delta ∈ (deltas window.records : List ℝ), 0 ≤ delta) ∧
    (1 < n → mean * (n - 1 : Nat) = total ∧ total ≤ width ∧
      0 ≤ deviation ∧ deviation ≤ width / 2) ∧
    (n = 1 → mean = 0 ∧ deviation = 0) ∧
    BurstDetector.score features ≤
      max (width ^ 2 / 4 - 0.0025) 0.0025 / 0.051 := by
  intro features mean deviation n total width
  have within := withinWidth_of_mem_emittedWindows stepPositive.le isWindow
  have isDeviation : deviation =
      Real.sqrt (BurstDetector.currentVariance window.records) :=
    values_six orders window
  refine ⟨within.inOrder, ?_, ?_, ?_, ?_⟩
  · exact fun delta member => (within.delta_le delta member).1
  · intro several
    refine ⟨values_five_mul orders several nonempty, ?_, ?_, ?_⟩
    · exact FeatureExtractor.seconds_mono (within.close _ (List.head_mem nonempty) _
        (List.getLast_mem nonempty))
    · rw [isDeviation]
      exact Real.sqrt_nonneg _
    · rw [isDeviation]
      exact within.sqrt_currentVariance_le nonempty
  · intro single
    constructor
    · change (FeatureExtractor.compute orders window).values.getD 5 (0 : ℝ) = 0
      rw [values_five, if_neg (by omega)]
      norm_num
    · rw [isDeviation, BurstDetector.currentVariance_of_length_le_two (by omega),
        Real.sqrt_zero]
  · rw [BurstDetector.score_compute]
    have nonneg := BurstDetector.currentVariance_nonneg window.records
    have atMost := within.currentVariance_le
    have scale : (51 / 1000 : ℝ) = 0.051 := by norm_num
    rw [scale]
    apply div_le_div_of_nonneg_right _ (by norm_num)
    rw [abs_le']
    constructor
    · apply le_max_of_le_left
      norm_num at atMost ⊢
      linarith
    · apply le_max_of_le_right
      norm_num
      linarith

/-- Three records within five seconds, on a schedule of five-second windows. -/
theorem timing_features_bounded_of_three_records :
    let records : List ParsedRecord :=
      [{ timestamp := 0 }, { timestamp := 1000000000 }, { timestamp := 5000000000 }]
    let window : Window := ⟨0, 5000000000, records⟩
    (FeatureExtractor.compute .byInsertion window).values.getD 5 (0 : ℝ) * (2 : Nat) =
        seconds 5000000000 ∧
      (FeatureExtractor.compute .byInsertion window).values.getD 6 (0 : ℝ) ≤
        seconds 5000000000 / 2 := by
  intro records window
  have isWindow : window ∈
      WindowManager.emittedWindows 5000000000 1000000000 records := by decide
  rcases timing_features_bounded .byInsertion (by decide) isWindow (List.cons_ne_nil _ _)
    with ⟨_, _, several, _⟩
  have bounds := several (by decide)
  exact ⟨bounds.1, bounds.2.2.2⟩

end Prism.System

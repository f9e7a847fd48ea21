import Prism.Detection.ExactScores
import Prism.Feature.Invariance
import Prism.Main.Pipeline
import Prism.Risk.Hysteresis

/-! # Pairs of windows

Two windows whose records correspond, except for one field: what the difference can
do to the scores and to the decision.
-/

namespace Prism.System

open Prism.Detection Prism.Features Prism.Main Prism.Risk

/-! ## Corresponding records -/

section Corresponding

variable {Record Record' : Type} {Related : Record → Record' → Prop}
  {records : List Record} {records' : List Record'}

theorem map_eq_of_forall₂ {first : Record → Value} {second : Record' → Value}
    (same : ∀ record record', Related record record' → first record = second record')
    (related : List.Forall₂ Related records records') :
    records.map first = records'.map second := by
  induction related with
  | nil => rfl
  | cons headRelated _ induction =>
      rw [List.map_cons, List.map_cons, same _ _ headRelated, induction]

theorem countP_le_of_forall₂ {first : Record → Bool} {second : Record' → Bool}
    (implies : ∀ record record', Related record record' →
      first record = true → second record' = true)
    (related : List.Forall₂ Related records records') :
    records.countP first ≤ records'.countP second := by
  induction related with
  | nil => exact le_rfl
  | cons headRelated _ induction =>
      rw [List.countP_cons, List.countP_cons]
      refine Nat.add_le_add induction ?_
      split
      · rw [if_pos (implies _ _ headRelated ‹_›)]
      · exact Nat.zero_le _

theorem exists_pairs_of_forall₂ {Pair : Type} {first : Pair → Record}
    {second : Pair → Record'}
    (pair : ∀ record record', Related record record' →
      ∃ both, first both = record ∧ second both = record')
    (related : List.Forall₂ Related records records') :
    ∃ pairs : List Pair, pairs.map first = records ∧ pairs.map second = records' := by
  induction related with
  | nil => exact ⟨[], rfl, rfl⟩
  | cons headRelated _ induction =>
      rcases pair _ _ headRelated with ⟨both, rfl, rfl⟩
      rcases induction with ⟨pairs, rfl, rfl⟩
      exact ⟨both :: pairs, rfl, rfl⟩

end Corresponding

/-! ## What the scores depend on -/

section Fields

variable (orders : VisitOrders) {records records' : List ParsedRecord}

theorem writeRatio_congr
    (same : records.map ParsedRecord.isWrite = records'.map ParsedRecord.isWrite) :
    HalfSpaceTrees.writeRatio records = HalfSpaceTrees.writeRatio records' := by
  rw [HalfSpaceTrees.writeRatio, HalfSpaceTrees.writeRatio,
    FeatureExtractor.countP_isWrite_perm (.of_eq same),
    FeatureExtractor.length_eq_of_map_eq same]

theorem funcConc_congr
    (same : records.map ParsedRecord.functionCode =
      records'.map ParsedRecord.functionCode) :
    HalfSpaceTrees.funcConc orders records =
      HalfSpaceTrees.funcConc orders records' := by
  rw [HalfSpaceTrees.funcConc_eq, HalfSpaceTrees.funcConc_eq, same]

theorem addressEntropy_congr
    (same : records.map ParsedRecord.address = records'.map ParsedRecord.address) :
    HalfSpaceTrees.addressEntropy orders records =
      HalfSpaceTrees.addressEntropy orders records' := by
  rw [HalfSpaceTrees.addressEntropy_eq, HalfSpaceTrees.addressEntropy_eq, same]

theorem currentVariance_congr
    (same : records.map ParsedRecord.timestamp = records'.map ParsedRecord.timestamp) :
    BurstDetector.currentVariance records = BurstDetector.currentVariance records' := by
  rw [BurstDetector.currentVariance_eq, BurstDetector.currentVariance_eq,
    FeatureExtractor.gaps_congr same, FeatureExtractor.length_eq_of_map_eq same]

end Fields

/-! ## The scores of any window -/

theorem hstScore_detect (orders : VisitOrders) (window : Window) :
    (detect orders window : DetectionResult ℝ).hstScore =
      HalfSpaceTrees.writeRatio window.records * 50 +
        HalfSpaceTrees.funcConc orders window.records * (5 / 2) +
        HalfSpaceTrees.addressEntropy orders window.records *
          HalfSpaceTrees.writeRatio window.records * 20 :=
  HalfSpaceTrees.score_compute orders window

theorem burstScore_detect (orders : VisitOrders) (window : Window) :
    (detect orders window : DetectionResult ℝ).burstScore =
      |BurstDetector.currentVariance window.records - 1 / 400| / (51 / 1000) :=
  BurstDetector.score_compute orders window

/-! ## More writes -/

/-- The second record is the first one, or the first one turned into a write. -/
structure MayTurnIntoWrite (first second : ParsedRecord) : Prop where
  others : second = { first with isWrite := second.isWrite }
  remains : first.isWrite = true → second.isWrite = true

theorem hstScore_le_of_writes (orders : VisitOrders) {window window' : Window}
    (turned : List.Forall₂ MayTurnIntoWrite window.records window'.records) :
    (detect orders window : DetectionResult ℝ).hstScore ≤
      (detect orders window').hstScore := by
  have sameConc := funcConc_congr orders
    (map_eq_of_forall₂ (fun _ _ turns => by rw [turns.others]) turned)
  have sameEntropy := addressEntropy_congr orders
    (map_eq_of_forall₂ (fun _ _ turns => by rw [turns.others]) turned)
  have moreWrites : HalfSpaceTrees.writeRatio window.records ≤
      HalfSpaceTrees.writeRatio window'.records := by
    rw [HalfSpaceTrees.writeRatio, HalfSpaceTrees.writeRatio, turned.length_eq]
    apply div_le_div_of_nonneg_right _ (Nat.cast_nonneg _)
    exact Nat.cast_le.mpr
      (countP_le_of_forall₂ (fun _ _ turns => turns.remains) turned)
  have entropy := HalfSpaceTrees.addressEntropy_nonneg orders window.records
  have spray := mul_le_mul_of_nonneg_left moreWrites entropy
  rw [hstScore_detect, hstScore_detect, ← sameConc, ← sameEntropy]
  linarith

theorem burstScore_eq_of_writes (orders : VisitOrders) {window window' : Window}
    (turned : List.Forall₂ MayTurnIntoWrite window.records window'.records) :
    (detect orders window : DetectionResult ℝ).burstScore =
      (detect orders window').burstScore := by
  have sameVariance := currentVariance_congr
    (map_eq_of_forall₂ (fun _ _ turns => by rw [turns.others]) turned)
  rw [burstScore_detect, burstScore_detect, sameVariance]

theorem detect_congr_orders (orders orders' : VisitOrders) (window : Window) :
    (detect orders window : DetectionResult ℝ) = detect orders' window := by
  rw [detect, detect, FeatureExtractor.compute_congr_orders orders orders']

/-- If any of the reads of a window are turned into writes and nothing else is
changed, the first score does not fall and the second one stays the same, and from
any state of the risk model neither the probability nor the level falls. -/
theorem writes_never_hide (orders orders' : VisitOrders) (window window' : Window)
    (model : RiskModel)
    (turned : List.Forall₂ MayTurnIntoWrite window.records window'.records) :
    let first : DetectionResult ℝ := detect orders window
    let second : DetectionResult ℝ := detect orders' window'
    first.hstScore ≤ second.hstScore ∧ first.burstScore = second.burstScore ∧
      (model.evaluate first).2.probability ≤ (model.evaluate second).2.probability ∧
      RiskModel.levelRank (model.evaluate first).2.level ≤
        RiskModel.levelRank (model.evaluate second).2.level := by
  intro first second
  have sameOrders : second = detect orders window' :=
    detect_congr_orders orders' orders window'
  have hstLe : first.hstScore ≤ second.hstScore := by
    rw [sameOrders]
    exact hstScore_le_of_writes orders turned
  have burstEq : first.burstScore = second.burstScore := by
    rw [sameOrders]
    exact burstScore_eq_of_writes orders turned
  have greater := RiskModel.pMax_mono ⟨hstLe, burstEq.le⟩
  have stays : (model.evaluate first).1.isOn = true →
      (model.evaluate second).1.isOn = true := by
    rw [RiskModel.evaluate_isOn, RiskModel.evaluate_isOn]
    exact RiskModel.thresholds.next_mono id greater
  have notLower := RiskModel.decision_notLower stays greater
  exact ⟨hstLe, burstEq, notLower.probability, notLower.level⟩

/-- One of two reads becomes a write. -/
theorem writes_never_hide_of_one_write :
    let window : Window := { records := [{}, { functionCode := 6 }] }
    let window' : Window := { records := [{}, { functionCode := 6, isWrite := true }] }
    (detect .byInsertion window : DetectionResult ℝ).hstScore ≤
      (detect .byInsertion window').hstScore :=
  (writes_never_hide .byInsertion .byInsertion _ _ {}
    (.cons ⟨rfl, id⟩ (.cons ⟨rfl, fun _ => rfl⟩ .nil))).1

/-! ## Other addresses -/

/-- The records differ at most in their addresses. -/
def SameButAddress (first second : ParsedRecord) : Prop :=
  second = { first with address := second.address }

/-- The entropy of the addresses as the extractor reports it. -/
theorem values_three (orders : VisitOrders) (window : Window) :
    (FeatureExtractor.compute orders window).values.getD 3 (0 : ℝ) =
      orders.addresses.keyEntropy (window.records.map ParsedRecord.address) := by
  rw [FeatureExtractor.compute_real]
  rfl

theorem hstScore_lt_iff_of_addresses (orders : VisitOrders) {window window' : Window}
    (sprayed : List.Forall₂ SameButAddress window.records window'.records)
    (scattered : HalfSpaceTrees.addressEntropy orders window'.records <
      HalfSpaceTrees.addressEntropy orders window.records) :
    (detect orders window' : DetectionResult ℝ).hstScore <
        (detect orders window).hstScore ↔
      0 < HalfSpaceTrees.writeRatio window.records := by
  have sameConc := funcConc_congr orders
    (map_eq_of_forall₂ (fun _ _ sameRest => by rw [sameRest]) sprayed)
  have sameRatio := writeRatio_congr
    (map_eq_of_forall₂ (fun _ _ sameRest => by rw [sameRest]) sprayed)
  rw [hstScore_detect, hstScore_detect, ← sameConc, ← sameRatio]
  constructor
  · intro greater
    refine (HalfSpaceTrees.writeRatio_nonneg window.records).lt_of_ne' ?_
    intro zero
    rw [zero] at greater
    linarith
  · intro positive
    have spray := mul_lt_mul_of_pos_right scattered positive
    linarith

theorem writeRatio_pos_iff (records : List ParsedRecord) :
    0 < HalfSpaceTrees.writeRatio records ↔
      ∃ record ∈ records, record.isWrite = true := by
  rw [← List.countP_pos_iff, HalfSpaceTrees.writeRatio]
  constructor
  · intro positive
    apply Nat.pos_of_ne_zero
    intro none
    rw [none, Nat.cast_zero, zero_div] at positive
    exact lt_irrefl 0 positive
  · intro some
    exact div_pos (Nat.cast_pos.mpr some)
      (Nat.cast_pos.mpr (some.trans_le List.countP_le_length))

/-- Of two windows that differ only in the addresses of their records, the one with
the greater entropy of addresses has the greater score if and only if it holds a
write. -/
theorem spray_penalised_iff (orders orders' : VisitOrders) (window window' : Window)
    (sprayed : List.Forall₂ SameButAddress window.records window'.records)
    (scattered : (FeatureExtractor.compute orders' window').values.getD 3 (0 : ℝ) <
      (FeatureExtractor.compute orders window).values.getD 3 0) :
    (HalfSpaceTrees.score (FeatureExtractor.compute orders' window') : ℝ) <
        HalfSpaceTrees.score (FeatureExtractor.compute orders window) ↔
      ∃ record ∈ window.records, record.isWrite = true := by
  rw [FeatureExtractor.compute_congr_orders orders' orders] at scattered ⊢
  rw [values_three, values_three, ← HalfSpaceTrees.addressEntropy_eq,
    ← HalfSpaceTrees.addressEntropy_eq] at scattered
  rw [← writeRatio_pos_iff]
  exact hstScore_lt_iff_of_addresses orders sprayed scattered

def twoRecords (isWrite : Bool) (first second : UInt16) : Window :=
  { records := [{ isWrite := isWrite, address := first }, { address := second }] }

theorem sameButAddress_twoRecords (isWrite : Bool) :
    List.Forall₂ SameButAddress (twoRecords isWrite 1 2).records
      (twoRecords isWrite 1 1).records :=
  .cons rfl (.cons rfl .nil)

theorem entropy_twoRecords_lt (isWrite : Bool) :
    (FeatureExtractor.compute .byInsertion
        (twoRecords isWrite 1 1)).values.getD 3 (0 : ℝ) <
      (FeatureExtractor.compute .byInsertion
        (twoRecords isWrite 1 2)).values.getD 3 0 := by
  have oneAddress : VisitOrders.byInsertion.addresses.keyEntropy [1, 1] = 0 := by
    rw [VisitOrder.keyEntropy_eq_zero_iff _ (List.cons_ne_nil _ _),
      VisitOrder.greatestShare_eq_one_iff _ (List.cons_ne_nil _ _)]
    exact ⟨1, by simp⟩
  have twoAddresses : VisitOrders.byInsertion.addresses.keyEntropy [1, 2] ≠ 0 := by
    rw [ne_eq, VisitOrder.keyEntropy_eq_zero_iff _ (List.cons_ne_nil _ _),
      VisitOrder.greatestShare_eq_one_iff _ (List.cons_ne_nil _ _)]
    rintro ⟨key, same⟩
    have equal := (same 1 (by simp)).trans (same 2 (by simp)).symm
    exact absurd equal (by decide)
  rw [values_three, values_three]
  change VisitOrders.byInsertion.addresses.keyEntropy [1, 1] <
    VisitOrders.byInsertion.addresses.keyEntropy [1, 2]
  rw [oneAddress]
  exact (VisitOrder.keyEntropy_nonneg _ _).lt_of_ne' twoAddresses

/-- One of the two records is a write. -/
theorem spray_penalised_of_write :
    (HalfSpaceTrees.score
        (FeatureExtractor.compute .byInsertion (twoRecords true 1 1)) : ℝ) <
      HalfSpaceTrees.score
        (FeatureExtractor.compute .byInsertion (twoRecords true 1 2)) :=
  (spray_penalised_iff .byInsertion .byInsertion (twoRecords true 1 2)
    (twoRecords true 1 1) (sameButAddress_twoRecords true)
    (entropy_twoRecords_lt true)).mpr
    ⟨_, List.mem_cons_self, rfl⟩

/-- Two reads cost the same for one address and for two. -/
theorem read_spray_not_penalised :
    ¬∀ (orders : VisitOrders) (window window' : Window),
      List.Forall₂ SameButAddress window.records window'.records →
      (FeatureExtractor.compute orders window').values.getD 3 (0 : ℝ) <
        (FeatureExtractor.compute orders window).values.getD 3 0 →
      (HalfSpaceTrees.score (FeatureExtractor.compute orders window') : ℝ) <
        HalfSpaceTrees.score (FeatureExtractor.compute orders window) := by
  intro always
  have costs := always .byInsertion (twoRecords false 1 2) (twoRecords false 1 1)
    (sameButAddress_twoRecords false) (entropy_twoRecords_lt false)
  have scattered := entropy_twoRecords_lt false
  rw [values_three, values_three, ← HalfSpaceTrees.addressEntropy_eq,
    ← HalfSpaceTrees.addressEntropy_eq] at scattered
  have writes := (hstScore_lt_iff_of_addresses .byInsertion
    (sameButAddress_twoRecords false) scattered).mp costs
  rw [writeRatio_pos_iff] at writes
  exact absurd writes (by decide)

end Prism.System

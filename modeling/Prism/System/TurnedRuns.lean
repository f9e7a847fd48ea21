import Prism.Main.Stages
import Prism.System.PairedWindows
import Prism.Windowing.Coverage

/-! # Two runs of the pipeline

The same traffic twice, the second time with some of the reads replaced by writes.
Every evaluation of the second run is at least as severe as its counterpart.
-/

namespace Prism.System

open Prism.Detection Prism.Enforcement Prism.Features Prism.Main Prism.Risk
  Prism.Windowing

/-! ## Replaced records -/

/-- The second record is the first one, or a write in place of a read: at the same
time and to the same address, but of any protocol and any function. -/
structure MayBeReplaced (first second : ParsedRecord) : Prop where
  timestamp : second.timestamp = first.timestamp
  address : second.address = first.address
  unlessWrite : second = first ∨ first.isWrite = false ∧ second.isWrite = true

theorem MayBeReplaced.remains {first second : ParsedRecord}
    (replaced : MayBeReplaced first second) (isWrite : first.isWrite = true) :
    second.isWrite = true := by
  rcases replaced.unlessWrite with same | ⟨_, nowWrite⟩
  · rw [same]
    exact isWrite
  · exact nowWrite

/-! ## Replaced windows -/

theorem count_add_countP_le {records records' : List ParsedRecord}
    (replaced : List.Forall₂ MayBeReplaced records records') (code : UInt8) :
    (records.map ParsedRecord.functionCode).count code +
        records.countP ParsedRecord.isWrite ≤
      (records'.map ParsedRecord.functionCode).count code +
        records'.countP ParsedRecord.isWrite := by
  induction replaced with
  | nil => exact Nat.le_refl _
  | cons headReplaced _ induction =>
      rw [List.map_cons, List.map_cons, List.count_cons, List.count_cons,
        List.countP_cons, List.countP_cons]
      rcases headReplaced.unlessWrite with same | ⟨wasRead, nowWrite⟩
      · rw [same]
        omega
      · rw [wasRead, nowWrite, if_neg Bool.false_ne_true, if_pos rfl]
        split <;> split <;> omega

theorem funcConc_add_writeRatio_le (orders : VisitOrders)
    {records records' : List ParsedRecord}
    (replaced : List.Forall₂ MayBeReplaced records records') :
    HalfSpaceTrees.funcConc orders records + HalfSpaceTrees.writeRatio records ≤
      HalfSpaceTrees.funcConc orders records' + HalfSpaceTrees.writeRatio records' := by
  let counts (some : List ParsedRecord) : List Nat :=
    orders.functions.counts (some.map ParsedRecord.functionCode)
  let writes (some : List ParsedRecord) : ℝ := (some.countP ParsedRecord.isWrite : ℝ)
  have counted : ∀ code : UInt8,
      (((records'.map ParsedRecord.functionCode).count code : Nat) : ℝ) ≤
        FeatureExtractor.maxCount (counts records') := by
    intro code
    by_cases occurs : code ∈ records'.map ParsedRecord.functionCode
    · apply FeatureExtractor.le_maxCount
      exact orders.functions.mem_counts_iff.mpr ⟨code, occurs, rfl⟩
    · rw [List.count_eq_zero.mpr occurs, Nat.cast_zero]
      exact FeatureExtractor.maxCount_nonneg _
  have moreWrites : writes records ≤ writes records' :=
    Nat.cast_le.mpr (countP_le_of_forall₂ (fun _ _ turns => turns.remains) replaced)
  have greatest : FeatureExtractor.maxCount (counts records) ≤
      FeatureExtractor.maxCount (counts records') + (writes records' - writes records) := by
    rw [FeatureExtractor.maxCount_le_iff]
    constructor
    · have nonneg := FeatureExtractor.maxCount_nonneg (counts records')
      linarith
    · intro count isCount
      rcases orders.functions.mem_counts_iff.mp isCount with ⟨code, _, rfl⟩
      have kept : (((records.map ParsedRecord.functionCode).count code +
          records.countP ParsedRecord.isWrite : Nat) : ℝ) ≤
            (((records'.map ParsedRecord.functionCode).count code +
              records'.countP ParsedRecord.isWrite : Nat) : ℝ) :=
        Nat.cast_le.mpr (count_add_countP_le replaced code)
      push_cast at kept
      have atMost := counted code
      simp only [writes]
      linarith
  rw [HalfSpaceTrees.funcConc, HalfSpaceTrees.funcConc, HalfSpaceTrees.writeRatio,
    HalfSpaceTrees.writeRatio, ← add_div, ← add_div, replaced.length_eq]
  apply div_le_div_of_nonneg_right _ (Nat.cast_nonneg _)
  simp only [counts, writes] at greatest
  linarith

theorem dominated_of_replaced (orders orders' : VisitOrders) {window window' : Window}
    (replaced : List.Forall₂ MayBeReplaced window.records window'.records) :
    RiskModel.Dominated (detect orders window) (detect orders' window') := by
  rw [detect_congr_orders orders' orders]
  have sameEntropy := addressEntropy_congr orders
    (map_eq_of_forall₂ (fun _ _ turns => turns.address.symm) replaced)
  have sameVariance := currentVariance_congr
    (map_eq_of_forall₂ (fun _ _ turns => turns.timestamp.symm) replaced)
  constructor
  · have exchanged := funcConc_add_writeRatio_le orders replaced
    have moreWrites : HalfSpaceTrees.writeRatio window.records ≤
        HalfSpaceTrees.writeRatio window'.records := by
      rw [HalfSpaceTrees.writeRatio, HalfSpaceTrees.writeRatio, replaced.length_eq]
      apply div_le_div_of_nonneg_right _ (Nat.cast_nonneg _)
      exact Nat.cast_le.mpr
        (countP_le_of_forall₂ (fun _ _ turns => turns.remains) replaced)
    have entropy := HalfSpaceTrees.addressEntropy_nonneg orders window.records
    have spray := mul_le_mul_of_nonneg_left moreWrites entropy
    rw [hstScore_detect, hstScore_detect, ← sameEntropy]
    linarith
  · rw [burstScore_detect, burstScore_detect, sameVariance]

/-! ## Replaced streams -/

structure Replacement where
  first : ParsedRecord
  second : ParsedRecord
  replaced : MayBeReplaced first second

instance : Timestamped Replacement where
  timestamp replacement := replacement.first.timestamp

theorem exists_replacements {first second : List ParsedRecord}
    (replaced : List.Forall₂ MayBeReplaced first second) :
    ∃ replacements : List Replacement,
      replacements.map Replacement.first = first ∧
        replacements.map Replacement.second = second :=
  exists_pairs_of_forall₂ (fun _ _ replaced => ⟨⟨_, _, replaced⟩, rfl, rfl⟩) replaced

structure SameWindow (first second : Window) : Prop where
  startTime : second.startTime = first.startTime
  endTime : second.endTime = first.endTime
  records : List.Forall₂ MayBeReplaced first.records second.records

theorem sameWindow_mapWindow (window : Window Replacement) :
    SameWindow (mapWindow Replacement.first window)
      (mapWindow Replacement.second window) where
  startTime := rfl
  endTime := rfl
  records := by
    simp only [mapWindow, List.forall₂_map_left_iff, List.forall₂_map_right_iff]
    exact List.forall₂_same.mpr fun replacement _ => replacement.replaced

theorem sameWindow_evaluatedWindows {first second : List ParsedRecord}
    (replaced : List.Forall₂ MayBeReplaced first second) :
    List.Forall₂ SameWindow (evaluatedWindows {} first) (evaluatedWindows {} second) := by
  rcases exists_replacements replaced with ⟨replacements, rfl, rfl⟩
  have firsts := WindowManager.map_emittedWindows_of_sameTime Replacement.first
    (fun _ => rfl) (milliseconds 5000) (milliseconds 1000) replacements
  have seconds := WindowManager.map_emittedWindows_of_sameTime Replacement.second
    (fun replacement => replacement.replaced.timestamp) (milliseconds 5000)
    (milliseconds 1000) replacements
  apply forall₂_evaluatedWindows sameWindow_mapWindow _ firsts seconds
  intro window
  simp [mapWindow]

/-! ## Decisions of both runs -/

theorem restricts_of_notLower (decision decision' : RiskDecision ℝ)
    (notLower : RiskModel.NotLower decision decision')
    (restricts : Attempting.restricts decision = true) :
    Attempting.restricts decision' = true := by
  rw [Attempting.restricts, Bool.and_eq_true, decide_eq_true_iff] at restricts ⊢
  refine ⟨?_, notLower.restrictWrites restricts.2⟩
  have atLeast := notLower.level
  rw [restricts.1] at atLeast
  cases level : decision'.level with
  | Low => simp [level, RiskModel.levelRank] at atLeast
  | Medium => simp [level, RiskModel.levelRank] at atLeast
  | High => rfl

theorem notLower_decisionsOn (environment environment' : Environment)
    {windows windows' : List Window} (same : List.Forall₂ SameWindow windows windows') :
    List.Forall₂ RiskModel.NotLower (decisionsOn ℝ environment {} windows)
      (decisionsOn ℝ environment' {} windows') := by
  have dominated : List.Forall₂ RiskModel.Dominated
      (windows.map (detect environment.orders))
      (windows'.map (detect environment'.orders)) := by
    simp only [List.forall₂_map_left_iff, List.forall₂_map_right_iff]
    exact same.imp fun window window' same => dominated_of_replaced _ _ same.records
  refine Machine.forall₂_outputs
    (fun model model' : RiskModel => model.isOn = true → model'.isOn = true) ?_ id
    dominated
  intro model model' detection detection' later below
  have greater := RiskModel.pMax_mono below
  have stillLater : (model.evaluate detection).1.isOn = true →
      (model'.evaluate detection').1.isOn = true := by
    rw [RiskModel.evaluate_isOn, RiskModel.evaluate_isOn]
    exact RiskModel.thresholds.next_mono later greater
  exact ⟨stillLater, RiskModel.decision_notLower stillLater greater⟩

/-- If any of the reads in a stream are replaced by writes, of whatever protocol and
function, at the same time and to the same address, then the pipeline evaluates the
same windows, and at every evaluation the decision is at least as severe as before.
If the engine ends up locked before, and the network answers alike, it still does. -/
theorem replacing_reads_never_hides (environment environment' : Environment)
    (first second : List ParsedRecord)
    (replaced : List.Forall₂ MayBeReplaced first second) :
    List.Forall₂ SameWindow
        ((evaluations ℝ environment {} first).map Evaluation.window)
        ((evaluations ℝ environment' {} second).map Evaluation.window) ∧
      List.Forall₂ RiskModel.NotLower
        ((evaluations ℝ environment {} first).map Evaluation.decision)
        ((evaluations ℝ environment' {} second).map Evaluation.decision) ∧
      (environment.answers = environment'.answers →
        ((pipeline ℝ environment).finalState {} first).enforcer.locked = true →
        ((pipeline ℝ environment').finalState {} second).enforcer.locked = true) := by
  have same := sameWindow_evaluatedWindows replaced
  have notLower := notLower_decisionsOn environment environment' same
  rcases evaluations_staged ℝ environment {} first with ⟨windows, decisions, _⟩
  rcases evaluations_staged ℝ environment' {} second with ⟨windows', decisions', _⟩
  refine ⟨?_, ?_, ?_⟩
  · rw [windows, windows']
    exact same
  · rw [decisions, decisions']
    exact notLower
  · intro sameAnswers locked
    have moreOften := countP_le_of_forall₂ restricts_of_notLower notLower
    rw [(sends_evaluations ℝ environment {} first rfl).2] at locked
    rw [(sends_evaluations ℝ environment' {} second rfl).2, ← sameAnswers]
    rcases locked with ⟨send, member, sent⟩
    refine ⟨send, ?_, sent⟩
    rcases List.mem_map.mp member with ⟨attempt, inRange, isSend⟩
    refine List.mem_map.mpr ⟨attempt, ?_, isSend⟩
    rw [List.mem_range'_1] at inRange ⊢
    exact ⟨inRange.1, inRange.2.trans_le (Nat.add_le_add_left moreOften _)⟩

/-- A poll of three reads, of which the second becomes a write of another function. -/
theorem replacing_reads_never_hides_of_one_write :
    let environment : Environment := ⟨.byInsertion, fun _ => .reachable⟩
    let read (seconds : Int) : ParsedRecord :=
      { timestamp := milliseconds (1000 * seconds), functionCode := 3 }
    let write : ParsedRecord :=
      { timestamp := milliseconds 2000, functionCode := 16, isWrite := true }
    List.Forall₂ RiskModel.NotLower
      ((evaluations ℝ environment {} [read 0, read 2, read 5]).map Evaluation.decision)
      ((evaluations ℝ environment {} [read 0, write, read 5]).map
        Evaluation.decision) := by
  intro environment read write
  have replaced : List.Forall₂ MayBeReplaced [read 0, read 2, read 5]
      [read 0, write, read 5] :=
    .cons ⟨rfl, rfl, .inl rfl⟩ (.cons ⟨by decide, rfl, .inr ⟨rfl, rfl⟩⟩
      (.cons ⟨rfl, rfl, .inl rfl⟩ .nil))
  exact (replacing_reads_never_hides environment environment [read 0, read 2, read 5]
    [read 0, write, read 5] replaced).2.1

end Prism.System

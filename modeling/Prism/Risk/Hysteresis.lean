import Prism.Foundation.Hysteresis
import Prism.Risk.ExactScores

/-! # Decisions over whole runs

Over the reals the risk model is a flag with two thresholds on the probability.
Its decisions are a function of the history of probabilities, and they grow with
the scores.
-/

namespace Prism.Risk.RiskModel

/-! ## The flag of the risk model -/

noncomputable def thresholds : Band ℝ where
  lower := tauOff
  upper := tauOn
  lower_lt_upper := by
    rw [tauOff_real, tauOn_real]
    norm_num

theorem switch_isOn (model : RiskModel) (p : ℝ) :
    (model.switch p).isOn = thresholds.next model.isOn p := by
  cases on : model.isOn with
  | false =>
      by_cases reached : tauOn ≤ p
      · simp [switch, Band.next, thresholds, on, reached]
      · simp [switch, Band.next, thresholds, on, reached]
  | true =>
      by_cases fallen : p ≤ tauOff
      · simp [switch, Band.next, thresholds, on, fallen, not_lt.mpr fallen]
      · simp [switch, Band.next, thresholds, on, fallen, not_le.mp fallen]

theorem evaluate_isOn (model : RiskModel) (detection : DetectionResult ℝ) :
    (model.evaluate detection).1.isOn =
      thresholds.next model.isOn (pMax detection) :=
  model.switch_isOn (pMax detection)

theorem evaluate_isOn_of_tauOn_le (model : RiskModel) {detection : DetectionResult ℝ}
    (reached : tauOn ≤ pMax detection) : (model.evaluate detection).1.isOn = true := by
  rw [evaluate_isOn]
  exact (thresholds.next_iff _ _).mpr (.inl reached)

theorem tauOff_lt_of_high {model : RiskModel} {detection : DetectionResult ℝ}
    (high : (model.evaluate detection).2.level = .High) :
    tauOff < pMax detection := by
  rw [evaluate_level_eq_high_iff, evaluate_isOn, thresholds.next_iff] at high
  rcases high with reached | ⟨_, above⟩
  · exact thresholds.lower_lt_upper.trans_le reached
  · exact above

/-- The risk model follows the flag, and a decision is High while it is on. -/
noncomputable def followsFlag :
    Machine.Simulation (machine ℝ) thresholds.flag pMax
      (fun decision => decide (decision.level = .High)) where
  Related model isOn := model.isOn = isOn
  next := by
    intro model isOn same detection
    rw [← same]
    exact model.evaluate_isOn detection
  output := by
    intro model isOn same detection
    rw [← same, Bool.eq_iff_iff, decide_eq_true_iff]
    change (model.evaluate detection).2.level = .High ↔
      thresholds.next model.isOn (pMax detection) = true
    rw [evaluate_level_eq_high_iff, evaluate_isOn]

/-! ## Decisions as a function of the history -/

/-- Some step up to this one has reached 0.7, and every step since was above
0.5. -/
def RaisedAt (detections : List (DetectionResult ℝ)) (index : Nat) : Prop :=
  ∃ first ≤ index, (∃ detection ∈ detections[first]?, 0.7 ≤ pMax detection) ∧
    ∀ later, first < later → later ≤ index →
      ∀ detection ∈ detections[later]?, 0.5 < pMax detection

theorem raisedAt_iff (detections : List (DetectionResult ℝ)) (index : Nat) :
    RaisedAt detections index ↔
      thresholds.HeldAt (detections.map pMax) index := by
  simp [RaisedAt, Band.HeldAt, thresholds, tauOn, tauOff]

theorem level_eq_high_iff {detections : List (DetectionResult ℝ)} {index : Nat}
    {decision : RiskDecision ℝ}
    (isDecision : ((machine ℝ).outputs {} detections)[index]? = some decision) :
    decision.level = .High ↔ RaisedAt detections index := by
  have isFlag : (thresholds.flag.outputs false (detections.map pMax))[index]? =
      some (decide (decision.level = .High)) := by
    have sameOff : followsFlag.Related {} false := rfl
    rw [← followsFlag.outputs sameOff detections, List.getElem?_map, isDecision]
    rfl
  rw [raisedAt_iff, ← Band.flag_output_iff isFlag, decide_eq_true_iff]

theorem level_eq_medium_iff {model : RiskModel} {p : ℝ}
    (notHigh : (model.decision p).level ≠ .High) :
    (model.decision p).level = .Medium ↔ 0.4 < p := by
  have off : model.isOn = false := by
    apply Bool.eq_false_iff.mpr
    intro on
    exact notHigh ((decision_level_eq_high_iff model p).mpr on)
  rw [decision_level_of_off off]
  split
  · exact iff_of_true rfl ‹_›
  · exact iff_of_false (fun equal => nomatch equal) ‹_›

/-- Between a High decision and a later one that is not High the probability has
fallen to 0.5. -/
theorem exists_le_of_not_high {detections : List (DetectionResult ℝ)}
    {earlier later : Nat} {first second : RiskDecision ℝ} (le : earlier ≤ later)
    (isFirst : ((machine ℝ).outputs {} detections)[earlier]? = some first)
    (isSecond : ((machine ℝ).outputs {} detections)[later]? = some second)
    (high : first.level = .High) (notHigh : second.level ≠ .High) :
    ∃ between, earlier < between ∧ between ≤ later ∧
      ∃ detection ∈ detections[between]?, pMax detection ≤ 0.5 := by
  rw [level_eq_high_iff isFirst, raisedAt_iff] at high
  rw [ne_eq, level_eq_high_iff isSecond, raisedAt_iff] at notHigh
  rcases Band.exists_le_lower_of_not_heldAt high le notHigh with
    ⟨between, after, upTo, p, isP, fallen⟩
  rw [List.getElem?_map] at isP
  rcases Option.map_eq_some_iff.mp isP with ⟨detection, isDetection, rfl⟩
  exact ⟨between, after, upTo, detection, isDetection, fallen⟩

/-- The decisions of a fresh risk model over a whole run. The decision at an index
is High exactly when the probability has reached 0.7 and has not fallen to 0.5
since; it escalates and restricts writes exactly when it is High, and otherwise
it is Medium exactly above 0.4. Two alerts are separated by a step at which the
probability is at most 0.5. -/
theorem hysteresis_over_runs (detections : List (DetectionResult ℝ)) :
    (∀ (index : Nat) (detection : DetectionResult ℝ) (decision : RiskDecision ℝ),
      detections[index]? = some detection →
      ((machine ℝ).outputs {} detections)[index]? = some decision →
        (decision.level = .High ↔ RaisedAt detections index) ∧
        (decision.escalate = true ↔ decision.level = .High) ∧
        (decision.restrictWrites = true ↔ decision.level = .High) ∧
        (decision.level ≠ .High →
          (decision.level = .Medium ↔ 0.4 < pMax detection))) ∧
    (∀ (earlier pause later : Nat) (first silent second : RiskDecision ℝ),
      earlier < pause → pause < later →
      ((machine ℝ).outputs {} detections)[earlier]? = some first →
      ((machine ℝ).outputs {} detections)[pause]? = some silent →
      ((machine ℝ).outputs {} detections)[later]? = some second →
      first.level = .High → silent.level ≠ .High → second.level = .High →
        ∃ between, earlier < between ∧ between < later ∧
          ∃ detection ∈ detections[between]?, pMax detection ≤ 0.5) := by
  constructor
  · intro index detection decision isDetection isDecision
    refine ⟨level_eq_high_iff isDecision, ?_⟩
    rw [Machine.getElem?_outputs, isDetection, Option.map_some,
      Option.some.injEq] at isDecision
    rw [← isDecision]
    refine ⟨?_, ?_, level_eq_medium_iff⟩
    · exact (Bool.eq_iff_iff.mp (decision_escalate _ _)).trans
        (decision_level_eq_high_iff _ _).symm
    · exact (Bool.eq_iff_iff.mp (decision_restrictWrites _ _)).trans
        (decision_level_eq_high_iff _ _).symm
  · intro earlier pause later first silent second before after isFirst isSilent _
      high notHigh _
    rcases exists_le_of_not_high before.le isFirst isSilent high notHigh with
      ⟨between, fromEarlier, upTo, fallen⟩
    exact ⟨between, fromEarlier, upTo.trans_lt after, fallen⟩

/-- An attack, a quiet step and another attack. -/
theorem hysteresis_over_runs_of_two_alerts :
    let detections : List (DetectionResult ℝ) := [⟨15, 0⟩, ⟨0, 0⟩, ⟨15, 0⟩]
    ∃ between, 0 < between ∧ between < 2 ∧
      ∃ detection ∈ detections[between]?, pMax detection ≤ (0.5 : ℝ) := by
  intro detections
  have attack : 0.7 ≤ pMax (⟨15, 0⟩ : DetectionResult ℝ) :=
    tauOn_le_pMax (by norm_num)
  have quiet : pMax (⟨0, 0⟩ : DetectionResult ℝ) ≤ 0.5 :=
    (pMax_le_tauOff_iff _).mpr (by norm_num)
  have run := hysteresis_over_runs detections
  have raised : ∀ index, detections[index]? = some ⟨15, 0⟩ →
      RaisedAt detections index := by
    intro index isAttack
    refine ⟨index, le_rfl, ⟨_, isAttack, attack⟩, ?_⟩
    intro later after upTo
    omega
  have subsided : ¬RaisedAt detections 1 := by
    rintro ⟨first, firstLe, ⟨reachedValue, isReached, reached⟩, since⟩
    rcases Nat.lt_or_eq_of_le firstLe with before | rfl
    · exact absurd (since 1 before le_rfl ⟨0, 0⟩ rfl) (not_lt.mpr quiet)
    · rw [← Option.some.inj isReached] at reached
      linarith
  refine run.2 0 1 2 _ _ _ (by decide) (by decide) rfl rfl rfl ?_ ?_ ?_
  · exact (run.1 0 ⟨15, 0⟩ _ rfl rfl).1.mpr (raised 0 rfl)
  · exact fun high => subsided ((run.1 1 ⟨0, 0⟩ _ rfl rfl).1.mp high)
  · exact (run.1 2 ⟨15, 0⟩ _ rfl rfl).1.mpr (raised 2 rfl)

/-! ## More evidence never lowers the alert -/

def levelRank : RiskLevel → Nat
  | .Low => 0
  | .Medium => 1
  | .High => 2

structure NotLower (first second : RiskDecision ℝ) : Prop where
  level : levelRank first.level ≤ levelRank second.level
  probability : first.probability ≤ second.probability
  restrictWrites : first.restrictWrites = true → second.restrictWrites = true

theorem decision_notLower {first second : RiskModel} {p p' : ℝ}
    (later : first.isOn = true → second.isOn = true) (le : p ≤ p') :
    NotLower (first.decision p) (second.decision p') where
  level := by
    cases secondOn : second.isOn with
    | true =>
        rw [(decision_level_eq_high_iff second p').mpr secondOn]
        cases (first.decision p).level <;> decide
    | false =>
        have firstOff : first.isOn = false := by
          apply Bool.eq_false_iff.mpr
          intro firstOn
          rw [later firstOn] at secondOn
          cases secondOn
        rw [decision_level_of_off firstOff, decision_level_of_off secondOn]
        by_cases suspicious : (0.4 : ℝ) < p
        · rw [if_pos suspicious, if_pos (suspicious.trans_le le)]
        · rw [if_neg suspicious]
          exact Nat.zero_le _
  probability := by
    rw [decision_probability, decision_probability]
    exact le
  restrictWrites := by
    rw [decision_restrictWrites, decision_restrictWrites]
    exact later

/-- Two fresh risk models on sequences of detections of which the second never has
a lower score: at every step the second decision is at least as severe. -/
theorem decisions_monotone {first second : List (DetectionResult ℝ)}
    (dominated : List.Forall₂ Dominated first second) :
    List.Forall₂ NotLower ((machine ℝ).outputs {} first)
      ((machine ℝ).outputs {} second) := by
  refine Machine.forall₂_outputs
    (fun model model' : RiskModel => model.isOn = true → model'.isOn = true) ?_
    (fun on => on) dominated
  intro model model' detection detection' later below
  have stillLater : (model.evaluate detection).1.isOn = true →
      (model'.evaluate detection').1.isOn = true := by
    rw [evaluate_isOn, evaluate_isOn]
    exact thresholds.next_mono later (pMax_mono below)
  exact ⟨stillLater, decision_notLower stillLater (pMax_mono below)⟩

/-- An attack on top of a quiet background. -/
theorem decisions_monotone_of_attack :
    List.Forall₂ NotLower ((machine ℝ).outputs {} [⟨2, 0⟩, ⟨3, 1⟩])
      ((machine ℝ).outputs {} [⟨30, 0⟩, ⟨3, 2⟩]) :=
  decisions_monotone (.cons ⟨by norm_num, by norm_num⟩
    (.cons ⟨by norm_num, by norm_num⟩ .nil))

end Prism.Risk.RiskModel

import Mathlib.Data.List.TakeWhile
import Prism.Agreement.Codecs
import Prism.Risk.ExactScores

/-! # Lock signals and engagements

The risk model and the enforcement engine over a sequence of detections, with a
PLC that can always be reached. An engagement is a maximal run of High decisions.
-/

namespace Prism.System

open Prism.Enforcement Prism.Risk Prism.Simulator.Modbus

/-! ## Maximal runs in a list -/

/-- `run` is a nonempty stretch of the list `before ++ run ++ after` on which the
property holds, and it cannot be extended. -/
structure MaximalRun (Property : α → Prop) (before run after : List α) : Prop where
  nonempty : run ≠ []
  holds : ∀ element ∈ run, Property element
  starts : ∀ element ∈ before.getLast?, ¬Property element
  ends : ∀ element ∈ after.head?, ¬Property element

theorem exists_maximalRun (Property : α → Prop) [DecidablePred Property]
    {before : List α} {element : α} (after : List α)
    (starts : ∀ last ∈ before.getLast?, ¬Property last) (holds : Property element) :
    ∃ rest remaining, element :: after = (element :: rest) ++ remaining ∧
      MaximalRun Property before (element :: rest) remaining := by
  refine ⟨after.takeWhile Property, after.dropWhile Property, ?_, ?_⟩
  · rw [List.cons_append, List.takeWhile_append_dropWhile]
  · refine ⟨List.cons_ne_nil _ _, ?_, starts, ?_⟩
    · intro other member
      rcases List.mem_cons.mp member with isFirst | inRest
      · rw [isFirst]
        exact holds
      · simpa using List.mem_takeWhile_imp inRest
    · intro next isNext
      have fails :=
        List.head?_dropWhile_not (fun other => decide (Property other)) after
      rw [Option.mem_def.mp isNext] at fails
      simpa using fails

/-! ## The guard -/

structure Guard where
  risk : RiskModel := {}
  engine : EnforcementEngine := {}
  deriving DecidableEq, Repr

structure Enforced (Double : Type) where
  decision : RiskDecision Double
  sends : List Send

namespace Guard

variable {Double : Type} [DoubleArithmetic Double]

def step (state : Guard) (detection : DetectionResult Double) :
    Guard × Enforced Double :=
  let evaluated := state.risk.evaluate detection
  let applied := state.engine.apply evaluated.2 .reachable
  ({ risk := evaluated.1, engine := applied.engine },
    { decision := evaluated.2, sends := applied.sends })

variable (Double) in
def machine : Machine Guard (DetectionResult Double) (Enforced Double) where
  step := step

def IsHigh (enforced : Enforced Double) : Prop := enforced.decision.level = .High

instance : DecidablePred (IsHigh : Enforced Double → Prop) :=
  fun enforced => inferInstanceAs (Decidable (enforced.decision.level = .High))

def engageCommands (outputs : List (Enforced Double)) : Nat :=
  (outputs.flatMap Enforced.sends).countP fun send =>
    decodeMbapPdu send.wire == Server.engageCommand

omit [DoubleArithmetic Double] in
theorem engageCommands_cons (output : Enforced Double)
    (outputs : List (Enforced Double)) :
    engageCommands (output :: outputs) =
      engageCommands [output] + engageCommands outputs := by
  simp [engageCommands]

/-! ## What a step does -/

theorem step_isHigh_iff (state : Guard) (detection : DetectionResult Double) :
    IsHigh (state.step detection).2 ↔ (state.step detection).1.risk.isOn = true :=
  RiskModel.evaluate_level_eq_high_iff _ _

theorem step_of_locked {state : Guard} (locked : state.engine.locked = true)
    (detection : DetectionResult Double) :
    (state.step detection).1.engine.locked = true ∧
      (state.step detection).2.sends = [] := by
  rcases EnforcementEngine.apply_eq_of_locked locked
      (state.risk.evaluate detection).2 .reachable with ⟨noSends, unchanged⟩
  exact ⟨by simp [step, unchanged, locked], noSends⟩

theorem step_of_unlocked {state : Guard} (unlocked : state.engine.locked = false)
    {detection : DetectionResult Double} (isHigh : IsHigh (state.step detection).2) :
    (state.step detection).1.engine.locked = true ∧
      engageCommands [(state.step detection).2] = 1 := by
  have restricts : (state.risk.evaluate detection).2.restrictWrites = true := by
    rw [RiskModel.evaluate_restrictWrites]
    exact (step_isHigh_iff state detection).mp isHigh
  have applied : state.engine.apply (state.risk.evaluate detection).2 .reachable = _ :=
    EnforcementEngine.apply_reachable_of_unlocked isHigh restricts unlocked
  constructor
  · simp [step, applied]
  · simp only [engageCommands, step, applied, List.flatMap_singleton]
    decide

/-! ## What a run does -/

theorem engageCommands_of_locked {state : Guard} (locked : state.engine.locked = true)
    (detections : List (DetectionResult Double)) :
    engageCommands ((machine Double).outputs state detections) = 0 := by
  induction detections generalizing state with
  | nil => rfl
  | cons detection detections induction =>
      rcases step_of_locked locked detection with ⟨stays, noSends⟩
      have noCommand : engageCommands [(state.step detection).2] = 0 := by
        simp [engageCommands, noSends]
      rw [Machine.outputs_cons, engageCommands_cons]
      exact Nat.add_eq_zero_iff.mpr ⟨noCommand, induction stays⟩

theorem engageCommands_of_run {state : Guard} {detection : DetectionResult Double}
    {detections : List (DetectionResult Double)}
    (isHigh : IsHigh (state.step detection).2) :
    engageCommands ((machine Double).outputs state (detection :: detections)) =
      if state.engine.locked then 0 else 1 := by
  cases locked : state.engine.locked with
  | true => exact engageCommands_of_locked locked _
  | false =>
      rcases step_of_unlocked locked isHigh with ⟨nowLocked, oneCommand⟩
      rw [Machine.outputs_cons, engageCommands_cons]
      exact congrArg₂ (· + ·) oneCommand (engageCommands_of_locked nowLocked detections)

theorem isOn_finalState_iff (detections : List (DetectionResult Double)) :
    ((machine Double).finalState {} detections).risk.isOn = true ↔
      ∃ last ∈ ((machine Double).outputs {} detections).getLast?, IsHigh last := by
  induction detections using List.reverseRecOn with
  | nil => simp
  | append_singleton detections detection =>
      rw [Machine.finalState_append, Machine.outputs_append]
      simp only [Machine.finalState_cons, Machine.finalState_nil, Machine.outputs_cons,
        Machine.outputs_nil, List.getLast?_concat, Option.mem_some_iff, exists_eq_left']
      exact (step_isHigh_iff _ detection).symm

/-- The probability rises to the upper threshold while the engine takes the lock
for held, although the flag is off. -/
def RisesWhileLocked (state : Guard) (detection : DetectionResult Double) : Prop :=
  state.risk.isOn = false ∧ (RiskModel.tauOn : Double) ≤ RiskModel.pMax detection ∧
    state.engine.locked = true

def OneCommandPerEngagement (detections : List (DetectionResult Double)) : Prop :=
  ∀ before run after,
    (machine Double).outputs {} detections = before ++ run ++ after →
      MaximalRun IsHigh before run after → engageCommands run = 1

theorem not_risesWhileLocked_of_oneCommand {detections : List (DetectionResult Double)}
    (one : OneCommandPerEngagement detections)
    {before after : List (DetectionResult Double)} {detection : DetectionResult Double}
    (split : detections = before ++ detection :: after) :
    ¬((machine Double).finalState {} before).RisesWhileLocked detection := by
  intro rises
  rcases rises with ⟨off, reached, locked⟩
  have isHigh := (step_isHigh_iff _ detection).mpr
    ((RiskModel.evaluate_isOn_iff_of_off off detection).mpr reached)
  have starts :
      ∀ last ∈ ((machine Double).outputs {} before).getLast?, ¬IsHigh last := by
    intro last isLast lastHigh
    rw [(isOn_finalState_iff before).mpr ⟨last, isLast, lastHigh⟩] at off
    cases off
  let state := (machine Double).finalState {} before
  rcases exists_maximalRun IsHigh
      ((machine Double).outputs (state.step detection).1 after) starts isHigh with
    ⟨rest, remaining, splitRun, engagement⟩
  have splitOutputs : (machine Double).outputs {} detections =
      (machine Double).outputs {} before ++ ((state.step detection).2 :: rest) ++
        remaining := by
    rw [split, Machine.outputs_append, List.append_assoc, ← splitRun]
    rfl
  have fromState : (machine Double).outputs state (detection :: after) =
      ((state.step detection).2 :: rest) ++ remaining := splitRun
  rcases (machine Double).exists_of_outputs_eq_append fromState with
    ⟨inputs, _, _, isRun, _⟩
  have noCommand := engageCommands_of_locked locked inputs
  rw [isRun, one _ _ _ splitOutputs engagement] at noCommand
  cases noCommand

theorem oneCommand_of_not_risesWhileLocked {detections : List (DetectionResult Double)}
    (along : (machine Double).Along
      (fun state detection => ¬state.RisesWhileLocked detection) {} detections) :
    OneCommandPerEngagement detections := by
  intro before run after split engagement
  rw [List.append_assoc] at split
  rcases (machine Double).exists_of_outputs_eq_append split with
    ⟨first, rest, inputs, isBefore, isRest⟩
  rcases (machine Double).exists_of_outputs_eq_append isRest with
    ⟨middle, last, inputsRest, isRun, _⟩
  cases middle with
  | nil => exact absurd isRun.symm engagement.nonempty
  | cons detection middle =>
      rw [← isRun, ← isBefore] at engagement
      have isHigh := engagement.holds _ List.mem_cons_self
      have off : ((machine Double).finalState {} first).risk.isOn = false := by
        apply Bool.eq_false_iff.mpr
        intro on
        rcases (isOn_finalState_iff first).mp on with ⟨previous, isPrevious, high⟩
        exact engagement.starts previous isPrevious high
      have reached := (RiskModel.evaluate_isOn_iff_of_off off detection).mp
        ((step_isHigh_iff _ detection).mp isHigh)
      have allowed := along first detection (middle ++ last)
        (by rw [inputs, inputsRest, List.cons_append])
      have unlocked : ((machine Double).finalState {} first).engine.locked = false := by
        apply Bool.eq_false_iff.mpr
        intro locked
        exact allowed ⟨off, reached, locked⟩
      rw [← isRun, engageCommands_of_run isHigh, unlocked]
      rfl

/-- Each engagement sends exactly one engage command if and only if the
probability never rises to the upper threshold, from a flag that is off, while
the engine takes the lock for held. -/
theorem one_command_per_engagement_iff (detections : List (DetectionResult Double)) :
    OneCommandPerEngagement detections ↔
      (machine Double).Along (fun state detection => ¬state.RisesWhileLocked detection)
        {} detections := by
  constructor
  · intro one before detection after split
    exact not_risesWhileLocked_of_oneCommand one split
  · exact oneCommand_of_not_risesWhileLocked

/-! ## Engagements by the probabilities -/

theorem engine_step_of_not_isHigh {state : Guard} {detection : DetectionResult Double}
    (notHigh : ¬IsHigh (state.step detection).2) :
    (state.step detection).1.engine = state.engine :=
  (EnforcementEngine.apply_of_not_restricting (fun restricting => notHigh restricting.1)
    .reachable).2.1

/-- What a run has left behind: the lock is held if the flag is on, and exactly if some
probability has reached the upper threshold; and where it is held without the flag,
a probability has come down to the lower threshold since. -/
structure Remembers (detections : List (DetectionResult Double)) (state : Guard) :
    Prop where
  locked_of_isOn : state.risk.isOn = true → state.engine.locked = true
  locked_iff : state.engine.locked = true ↔
    ∃ first ∈ detections, RiskModel.tauOn ≤ RiskModel.pMax first
  subsided : state.risk.isOn = false → state.engine.locked = true →
    ∃ first second, [first, second].Sublist detections ∧
      RiskModel.tauOn ≤ RiskModel.pMax first ∧ RiskModel.pMax second ≤ RiskModel.tauOff

theorem remembers_step_of_locked {detections : List (DetectionResult Double)}
    {state : Guard} (remembers : Remembers detections state)
    (locked : state.engine.locked = true) (detection : DetectionResult Double) :
    Remembers (detections ++ [detection]) (state.step detection).1 := by
  have stays := (step_of_locked locked detection).1
  rcases remembers.locked_iff.mp locked with ⟨first, member, reached⟩
  refine ⟨fun _ => stays,
    iff_of_true stays ⟨first, List.mem_append_left _ member, reached⟩, ?_⟩
  intro off _
  cases on : state.risk.isOn with
  | false =>
      rcases remembers.subsided on locked with ⟨first, second, isSublist, both⟩
      exact ⟨first, second, isSublist.trans (List.sublist_append_left _ _), both⟩
  | true =>
      have subsides : RiskModel.pMax detection ≤ RiskModel.tauOff := by
        by_contra above
        have stillOn := (RiskModel.evaluate_isOn_iff_of_on on detection).mpr above
        cases off.symm.trans stillOn
      have isSublist : [first, detection].Sublist (detections ++ [detection]) :=
        (List.singleton_sublist.mpr member).append (List.Sublist.refl [detection])
      exact ⟨first, detection, isSublist, reached, subsides⟩

theorem remembers_step_of_unlocked {detections : List (DetectionResult Double)}
    {state : Guard} (remembers : Remembers detections state)
    (unlocked : state.engine.locked = false) (detection : DetectionResult Double) :
    Remembers (detections ++ [detection]) (state.step detection).1 := by
  have isHigh := step_isHigh_iff state detection
  have off : state.risk.isOn = false := by
    apply Bool.eq_false_iff.mpr
    intro on
    cases unlocked.symm.trans (remembers.locked_of_isOn on)
  have turnsOn := RiskModel.evaluate_isOn_iff_of_off off detection
  by_cases reached : RiskModel.tauOn ≤ RiskModel.pMax detection
  · have on := turnsOn.mpr reached
    have nowLocked := (step_of_unlocked unlocked (isHigh.mpr on)).1
    refine ⟨fun _ => nowLocked, iff_of_true nowLocked ?_, ?_⟩
    · exact ⟨detection, List.mem_append_right _ (List.mem_singleton_self _), reached⟩
    · intro nowOff _
      cases on.symm.trans nowOff
  · have notHigh : ¬IsHigh (state.step detection).2 :=
      fun high => reached (turnsOn.mp (isHigh.mp high))
    have staysUnlocked : (state.step detection).1.engine.locked = false := by
      rw [engine_step_of_not_isHigh notHigh]
      exact unlocked
    have noneBefore : ¬∃ first ∈ detections,
        RiskModel.tauOn ≤ RiskModel.pMax first := by
      rw [← remembers.locked_iff, unlocked]
      decide
    refine ⟨?_, ?_, ?_⟩
    · intro on
      exact absurd (isHigh.mpr on) notHigh
    · refine iff_of_false (by rw [staysUnlocked]; decide) ?_
      rintro ⟨first, member, rose⟩
      rcases List.mem_append.mp member with before | isLast
      · exact noneBefore ⟨first, before, rose⟩
      · rw [List.mem_singleton.mp isLast] at rose
        exact reached rose
    · intro _ nowLocked
      cases staysUnlocked.symm.trans nowLocked

theorem remembers_run (detections : List (DetectionResult Double)) :
    Remembers detections ((machine Double).finalState {} detections) := by
  induction detections using List.reverseRecOn with
  | nil =>
      refine ⟨?_, ?_, ?_⟩
      · intro on
        cases on
      · exact iff_of_false Bool.false_ne_true (by simp)
      · intro _ locked
        cases locked
  | append_singleton detections detection induction =>
      rw [Machine.finalState_append]
      cases locked : ((machine Double).finalState {} detections).engine.locked with
      | true => exact remembers_step_of_locked induction locked detection
      | false => exact remembers_step_of_unlocked induction locked detection

/-- From a flag that is off on, the first probability that reaches the upper threshold
is a rise. -/
theorem exists_rise {state : Guard} (off : state.risk.isOn = false)
    (locked : state.engine.locked = true) {detections : List (DetectionResult Double)}
    (reaches : ∃ third ∈ detections, RiskModel.tauOn ≤ RiskModel.pMax third) :
    ∃ before third after, detections = before ++ third :: after ∧
      ((machine Double).finalState state before).RisesWhileLocked third := by
  induction detections generalizing state with
  | nil =>
      rcases reaches with ⟨third, member, _⟩
      cases member
  | cons detection detections induction =>
      by_cases reached : RiskModel.tauOn ≤ RiskModel.pMax detection
      · exact ⟨[], detection, detections, rfl, off, reached, locked⟩
      · have staysOff : (state.step detection).1.risk.isOn = false := by
          apply Bool.eq_false_iff.mpr
          intro on
          exact reached ((RiskModel.evaluate_isOn_iff_of_off off detection).mp on)
        have later : ∃ third ∈ detections, RiskModel.tauOn ≤ RiskModel.pMax third := by
          rcases reaches with ⟨third, member, reachedThird⟩
          rcases List.mem_cons.mp member with rfl | inRest
          · exact absurd reachedThird reached
          · exact ⟨third, inRest, reachedThird⟩
        rcases induction staysOff (step_of_locked locked detection).1 later with
          ⟨before, third, after, split, rises⟩
        exact ⟨detection :: before, third, after, by rw [split, List.cons_append], rises⟩

/-- Each engagement sends exactly one engage command if and only if there are no three
detections, in this order, of which the first and the last reach the upper threshold
and the one between them the lower. The thresholds have to lie apart, as 0.5 and 0.7
do. -/
theorem one_command_per_engagement_iff_probabilities
    (apart : ∀ p : Double, RiskModel.tauOn ≤ p → ¬p ≤ RiskModel.tauOff)
    (detections : List (DetectionResult Double)) :
    OneCommandPerEngagement detections ↔
      ¬∃ first second third, [first, second, third].Sublist detections ∧
        RiskModel.tauOn ≤ RiskModel.pMax first ∧
        RiskModel.pMax second ≤ RiskModel.tauOff ∧
        RiskModel.tauOn ≤ RiskModel.pMax third := by
  constructor
  · rintro one ⟨first, second, third, isSublist, rose, subsides, risesAgain⟩
    rcases List.cons_sublist_iff.mp isSublist with ⟨start, rest, rfl, inStart, isRest⟩
    rcases List.cons_sublist_iff.mp isRest with ⟨middle, last, rfl, inMiddle, isLast⟩
    rcases List.append_of_mem inMiddle with ⟨before, after, rfl⟩
    have locked := (remembers_run (start ++ before)).locked_iff.mpr
      ⟨first, List.mem_append_left _ inStart, rose⟩
    let state := (machine Double).finalState {} (start ++ before)
    have off : (state.step second).1.risk.isOn = false := by
      apply Bool.eq_false_iff.mpr
      intro on
      cases wasOn : state.risk.isOn with
      | false =>
          exact apart _ ((RiskModel.evaluate_isOn_iff_of_off wasOn second).mp on) subsides
      | true => exact (RiskModel.evaluate_isOn_iff_of_on wasOn second).mp on subsides
    rcases exists_rise off (step_of_locked locked second).1
        ⟨third, List.mem_append_right after (List.singleton_sublist.mp isLast),
          risesAgain⟩ with ⟨stretch, rising, remaining, split, rises⟩
    have splitAll : start ++ (before ++ second :: after ++ last) =
        (start ++ before ++ second :: stretch) ++ rising :: remaining := by
      simp only [List.append_assoc, List.cons_append, split]
    apply not_risesWhileLocked_of_oneCommand one splitAll
    rw [Machine.finalState_append]
    exact rises
  · intro none
    refine (one_command_per_engagement_iff detections).mpr ?_
    intro before detection after split rises
    rcases rises with ⟨off, reached, locked⟩
    rcases (remembers_run before).subsided off locked with
      ⟨first, second, isSublist, rose, subsides⟩
    apply none
    refine ⟨first, second, detection, ?_, rose, subsides, reached⟩
    rw [split]
    exact isSublist.append (List.singleton_sublist.mpr List.mem_cons_self)

/-- An attack, a pause in which the risk subsides, and a second attack. -/
def twoAttacks : List (DetectionResult ℝ) := [⟨100, 0⟩, ⟨0, 0⟩, ⟨100, 0⟩]

/-- The second attack gets no lock signal. -/
theorem second_attack_not_signalled :
    ¬∀ detections : List (DetectionResult ℝ), OneCommandPerEngagement detections := by
  intro everywhere
  have high : RiskModel.tauOn ≤ RiskModel.pMax (⟨100, 0⟩ : DetectionResult ℝ) :=
    RiskModel.tauOn_le_pMax (by norm_num)
  have low : RiskModel.pMax (⟨0, 0⟩ : DetectionResult ℝ) ≤ RiskModel.tauOff :=
    (RiskModel.pMax_le_tauOff_iff _).mpr (by norm_num)
  have on : (({} : Guard).step (⟨100, 0⟩ : DetectionResult ℝ)).1.risk.isOn = true :=
    (RiskModel.evaluate_isOn_iff_of_off rfl _).mpr high
  have locked :
      (({} : Guard).step (⟨100, 0⟩ : DetectionResult ℝ)).1.engine.locked = true :=
    (step_of_unlocked rfl ((step_isHigh_iff _ _).mpr on)).1
  have split : twoAttacks = [⟨100, 0⟩, ⟨0, 0⟩] ++ ⟨100, 0⟩ :: [] := rfl
  apply not_risesWhileLocked_of_oneCommand (everywhere twoAttacks) split
  refine ⟨?_, high, (step_of_locked locked _).1⟩
  apply Bool.eq_false_iff.mpr
  intro stillOn
  exact (RiskModel.evaluate_isOn_iff_of_on on _).mp stillOn low

end Guard

end Prism.System

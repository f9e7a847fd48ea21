import Prism.Foundation.Stretches
import Prism.Main.Stages
import Prism.System.Floods
import Prism.Windowing.Lag

/-! # How long an attack goes unanswered

From the onset of a storm of writes to the frame that engages the safety coil:
one window and one step of the schedule, and one more step for each window the
schedule is behind.
-/

namespace Prism.System

open Prism.Enforcement Prism.Features Prism.Main Prism.Risk Prism.SlidingWindow
  Prism.Windowing

/-! ## Floods lock -/

/-- At least three records in ten are writes. -/
def IsWriteFlood (window : Window) : Prop :=
  3 * window.records.length ≤ 10 * window.records.countP ParsedRecord.isWrite

instance (window : Window) : Decidable (IsWriteFlood window) :=
  inferInstanceAs (Decidable (_ ≤ _))

theorem evaluate_restricts_of_flood (orders : VisitOrders) {window : Window}
    (nonempty : window.records ≠ []) (flood : IsWriteFlood window) (model : RiskModel) :
    Attempting.restricts
      (model.evaluate (detect orders window : DetectionResult ℝ)).2 = true := by
  have reached : RiskModel.tauOn ≤
      RiskModel.pMax (detect orders window : DetectionResult ℝ) :=
    RiskModel.tauOn_le_pMax (.inl (fifteen_le_hstScore orders nonempty flood))
  have on := model.evaluate_isOn_of_tauOn_le reached
  rw [Attempting.restricts, Bool.and_eq_true, decide_eq_true_iff,
    RiskModel.evaluate_level_eq_high_iff, RiskModel.evaluate_restrictWrites]
  exact ⟨on, on⟩

theorem countP_restricts_pos (environment : Environment) (model : RiskModel)
    {windows : List Window} {window : Window} (member : window ∈ windows)
    (nonempty : window.records ≠ []) (flood : IsWriteFlood window) :
    0 < (decisionsOn ℝ environment model windows).countP Attempting.restricts := by
  rcases List.mem_iff_getElem?.mp member with ⟨index, isWindow⟩
  have isDecision := Machine.getElem?_outputs (RiskModel.machine ℝ) model
    (windows.map (detect environment.orders)) index
  rw [List.getElem?_map, isWindow] at isDecision
  apply List.countP_pos_iff.mpr
  exact ⟨_, List.mem_of_getElem? isDecision,
    evaluate_restricts_of_flood environment.orders nonempty flood _⟩

/-- The first attempt to reach the PLC succeeds. -/
def Reachable (environment : Environment) : Prop :=
  (sendSafetyCoil (environment.answers 0) 0xFF00).sent = true

/-- A run that evaluates a flood has put the whole frame on the wire, and its
engine is locked. -/
theorem locked_of_flood {environment : Environment} (reachable : Reachable environment)
    {records : List ParsedRecord} {window : Window}
    (emitted : window ∈ WindowManager.emittedWindows (milliseconds 5000)
      (milliseconds 1000) records)
    (nonempty : window.records ≠ []) (flood : IsWriteFlood window) :
    ((pipeline ℝ environment).finalState {} records).enforcer.locked = true ∧
      ∃ evaluation ∈ evaluations ℝ environment {} records,
        ∃ send ∈ evaluation.sends, send.wire = safetyCoilFrame 0xFF00 := by
  have evaluated : window ∈ evaluatedWindows {} records :=
    List.mem_filter.mpr ⟨emitted, by simpa using nonempty⟩
  have some := countP_restricts_pos environment {} evaluated nonempty flood
  rcases Nat.exists_eq_succ_of_ne_zero some.ne' with ⟨more, count⟩
  rcases sends_evaluations ℝ environment {} records rfl with ⟨sends, locked⟩
  rw [count, Attempting.attemptsFrom_succ] at sends locked
  refine ⟨locked.mpr ⟨_, List.mem_cons_self, reachable⟩, ?_⟩
  have isSent : sendSafetyCoil (environment.answers 0) 0xFF00 ∈
      (evaluations ℝ environment {} records).flatMap Evaluation.sends := by
    rw [sends, upToFirst]
    split
    · exact List.mem_cons_self
    · exact List.mem_cons_self
  rcases List.mem_flatMap.mp isSent with ⟨evaluation, isEvaluation, inSends⟩
  exact ⟨evaluation, isEvaluation, _, inSends, wire_of_sent reachable⟩

/-! ## Storms -/

theorem exists_start {origin onset step : Int} (stepPositive : 0 < step)
    (later : origin ≤ onset) :
    ∃ index : Nat, onset ≤ origin + index * step ∧
      origin + index * step < onset + step := by
  have quotient := Int.mul_ediv_add_emod (origin - onset) step
  have remainderNonneg := Int.emod_nonneg (origin - onset) stepPositive.ne'
  have remainderLt := Int.emod_lt_of_pos (origin - onset) stepPositive
  have quotientNonpos : (origin - onset) / step ≤ 0 :=
    Int.ediv_nonpos_of_nonpos_of_neg (by omega) stepPositive
  refine ⟨(-((origin - onset) / step)).toNat, ?_⟩
  rw [Int.toNat_of_nonneg (by omega), Int.neg_mul, Int.mul_comm]
  constructor
  · omega
  · omega

/-- From its onset on, no two consecutive records are reads. -/
def IsStorm (onset : Timestamp) (history : List ParsedRecord) : Prop :=
  history.IsChain fun earlier later =>
    onset ≤ earlier.timestamp → earlier.isWrite = true ∨ later.isWrite = true

theorem IsStorm.isWriteFlood {onset : Timestamp} {history : List ParsedRecord}
    (storm : IsStorm onset history) {window : Window}
    (isInfix : window.records <:+: history)
    (late : ∀ record ∈ window.records, onset ≤ record.timestamp)
    (several : 2 ≤ window.records.length) : IsWriteFlood window := by
  have alternates : window.records.IsChain fun earlier later =>
      earlier.isWrite = true ∨ later.isWrite = true := by
    have inWindow := List.IsChain.infix storm isInfix
    refine inWindow.imp_of_mem_imp ?_
    intro earlier later isEarlier _ oneWrites
    exact oneWrites (late earlier isEarlier)
  have half := length_le_two_mul_countP alternates
  rw [IsWriteFlood]
  omega

theorem locked_append {environment : Environment} {records : List ParsedRecord}
    (locked : ((pipeline ℝ environment).finalState {} records).enforcer.locked = true)
    (later : List ParsedRecord) :
    ((pipeline ℝ environment).finalState {} (records ++ later)).enforcer.locked =
      true := by
  let reached := (pipeline ℝ environment).finalState {} records
  have ends := (finalState_staged ℝ environment reached later).2.2
  have lockedFirst : (⟨reached.enforcer, reached.attempts⟩ :
      Attempting).engine.locked = true := locked
  rw [Machine.finalState_append]
  rw [(Attempting.run_of_locked environment.answers lockedFirst _).2] at ends
  exact (congrArg (fun state => state.engine.locked) ends).trans locked

/-- A storm of writes is answered within a window, a step, and as many steps more
as the schedule is windows behind. If the last accepted record is that much later
than the onset, and some two records of the storm fall into the part of the first
window that every schedule covers, then the frame that engages the coil is on the
wire and the engine is locked for good. -/
theorem storm_engages_lock (environment : Environment)
    (reachable : Reachable environment) (records : List ParsedRecord)
    (onset : Timestamp) (bound : Nat) (last : ParsedRecord)
    (started : WindowManager.firstTime records ≤ onset)
    (storm : IsStorm onset (accepted timestamp records))
    (dense : 2 ≤ (accepted timestamp records).countP fun record =>
      decide (onset + milliseconds 1000 ≤ record.timestamp) &&
        decide (record.timestamp < onset + milliseconds 5000))
    (isLast : (accepted timestamp records).getLast? = some last)
    (behind : timestamp last <
      (WindowManager.afterStream (milliseconds 5000) (milliseconds 1000)
        records).nextEmitTime + bound * milliseconds 1000)
    (elapsed : onset + milliseconds 6000 + bound * milliseconds 1000 ≤
      timestamp last) :
    (∃ evaluation ∈ evaluations ℝ environment {} records,
        ∃ send ∈ evaluation.sends, send.wire = safetyCoilFrame 0xFF00) ∧
      ∀ later, ((pipeline ℝ environment).finalState {}
        (records ++ later)).enforcer.locked = true := by
  have stepPositive : 0 < milliseconds 1000 := by decide
  have nonempty : records ≠ [] := by
    intro empty
    subst empty
    cases isLast
  rcases exists_start stepPositive started with ⟨index, after, soon⟩
  -- The first window that starts in the storm has been emitted.
  have emitted : index < (WindowManager.emittedWindows (milliseconds 5000)
      (milliseconds 1000) records).length := by
    apply WindowManager.lt_length_emittedWindows stepPositive nonempty behind
    simp only [milliseconds] at soon elapsed ⊢
    linarith
  have isWindow := List.getElem?_eq_getElem emitted
  let window := (WindowManager.emittedWindows (milliseconds 5000)
    (milliseconds 1000) records)[index]
  have atIndex := WindowManager.getElem?_windows stepPositive.le isWindow
  have starts := WindowManager.startsAt_firstTime records
  have stretch := isStretch_of_getElem? starts atIndex
  have filled := wellFilled_of_getElem? starts atIndex
  have several : 2 ≤ window.records.length := by
    refine dense.trans (le_trans ?_ stretch.inside.length_le)
    rw [List.countP_eq_length_filter]
    apply List.Sublist.length_le
    apply List.monotone_filter_right
    intro record within
    rw [Bool.and_eq_true] at within ⊢
    have lower := soon.le.trans (of_decide_eq_true within.1)
    have upper := of_decide_eq_true within.2
    refine ⟨decide_eq_true ?_, decide_eq_true ?_⟩
    · rw [WindowManager.start_eq]
      exact lower
    · rw [WindowManager.finish_eq]
      refine upper.trans_le ?_
      linarith
  have late : ∀ record ∈ window.records, onset ≤ record.timestamp := by
    intro record member
    have covered := (filled.covered record member).1
    rw [WindowManager.start_eq] at covered
    exact after.trans covered
  have flood := storm.isWriteFlood stretch.isInfix late several
  have notEmpty : window.records ≠ [] := List.length_pos_iff.mp (by omega)
  rcases locked_of_flood reachable (List.mem_of_getElem? isWindow) notEmpty flood with
    ⟨locked, sent⟩
  exact ⟨sent, locked_append locked⟩

/-- Five writes within six seconds of the first. -/
theorem storm_engages_lock_after_six_seconds :
    let write (seconds : Int) : ParsedRecord :=
      { timestamp := milliseconds (1000 * seconds), isWrite := true, functionCode := 6 }
    let environment : Environment := ⟨.byInsertion, fun _ => .reachable⟩
    let records := [write 0, write 2, write 3, write 5, write 6]
    ∀ later, ((pipeline ℝ environment).finalState {}
      (records ++ later)).enforcer.locked = true := by
  intro write environment records
  refine (storm_engages_lock environment ?_ records 0 0 (write 6) (by decide) ?_
    (by decide +kernel) (by decide +kernel) (by decide +kernel) (by decide)).2
  · simp [Reachable, environment]
  · rw [show accepted timestamp records = records by decide +kernel, IsStorm]
    decide

end Prism.System

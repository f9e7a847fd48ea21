import Mathlib.Data.List.Induction
import Prism.Enforcement.EnforcementEngine
import Prism.Foundation.Machine

/-! # Attempts to lock

The engine over a whole run of decisions. What it sends and what it reports is a
function of the decisions so far and of the answers it got to its attempts.
-/

namespace Prism.Enforcement

structure Call (Double : Type) where
  decision : RiskDecision Double
  answers : SocketAnswers

namespace Call

variable {Double : Type}

def attempt (call : Call Double) : Send := sendSafetyCoil call.answers 0xFF00

/-- The decision is one on which the engine may act. -/
def Restricts (call : Call Double) : Prop :=
  call.decision.level = .High ∧ call.decision.restrictWrites = true

instance (call : Call Double) : Decidable call.Restricts :=
  inferInstanceAs (Decidable (_ ∧ _))

def Succeeds (call : Call Double) : Prop :=
  call.Restricts ∧ call.attempt.sent = true

instance (call : Call Double) : Decidable call.Succeeds :=
  inferInstanceAs (Decidable (_ ∧ _))

end Call

namespace EnforcementEngine

variable {Double : Type}

def applyCall (engine : EnforcementEngine) (call : Call Double) : Applied :=
  engine.apply call.decision call.answers

variable (Double) in
def machine : Machine EnforcementEngine (Call Double) Applied where
  step engine call := ((engine.applyCall call).engine, engine.applyCall call)

/-! ## One call -/

section Step

variable (engine : EnforcementEngine) (call : Call Double)

/-- The reports of a call that attempted to send, or would have without the lock. -/
def IsLockReport (report : String) : Prop :=
  report = engagedReport ∨ report = failedReport ∨ report = activeReport

theorem not_isLockReport_of_not_restricts (notRestricts : ¬call.Restricts) :
    ¬IsLockReport (engine.applyCall call).report := by
  rcases call with ⟨⟨level, escalate, restrictWrites, probability⟩, answers⟩
  cases level with
  | Low => simp [applyCall, apply, IsLockReport, engagedReport, failedReport, activeReport]
  | Medium =>
      simp [applyCall, apply, IsLockReport, engagedReport, failedReport, activeReport]
  | High =>
      cases restrictWrites with
      | true => exact absurd ⟨rfl, rfl⟩ notRestricts
      | false =>
          simp [applyCall, apply, IsLockReport, engagedReport, failedReport, activeReport]

theorem applyCall_cases :
    (¬call.Restricts ∧ (engine.applyCall call).sends = [] ∧
        (engine.applyCall call).engine = engine ∧
        ¬IsLockReport (engine.applyCall call).report) ∨
      (call.Restricts ∧ engine.locked = true ∧
        engine.applyCall call = ⟨activeReport, engine, []⟩) ∨
      (call.Succeeds ∧ engine.locked = false ∧
        engine.applyCall call = ⟨engagedReport, { locked := true }, [call.attempt]⟩) ∨
      (call.Restricts ∧ call.attempt.sent = false ∧ engine.locked = false ∧
        engine.applyCall call = ⟨failedReport, engine, [call.attempt]⟩) := by
  by_cases restricts : call.Restricts
  · right
    cases locked : engine.locked with
    | true =>
        exact .inl ⟨restricts, rfl, apply_of_locked restricts.1 restricts.2 locked _⟩
    | false =>
        right
        have outcome : engine.applyCall call = _ :=
          apply_of_unlocked restricts.1 restricts.2 locked call.answers
        cases sent : call.attempt.sent with
        | true => exact .inl ⟨⟨restricts, sent⟩, rfl, outcome.trans (if_pos sent)⟩
        | false =>
            exact .inr ⟨restricts, rfl, rfl,
              outcome.trans (if_neg (Bool.eq_false_iff.mp sent))⟩
  · rcases apply_of_not_restricting restricts call.answers with ⟨noSends, unchanged, _⟩
    exact .inl ⟨restricts, noSends, unchanged,
      engine.not_isLockReport_of_not_restricts call restricts⟩

theorem applyCall_sends :
    (engine.applyCall call).sends =
      if call.Restricts ∧ engine.locked = false then [call.attempt] else [] := by
  rcases engine.applyCall_cases call with ⟨notRestricts, noSends, _⟩ |
    ⟨_, locked, active⟩ | ⟨succeeds, unlocked, engaged⟩ |
    ⟨restricts, _, unlocked, failed⟩
  · rw [noSends, if_neg fun both => notRestricts both.1]
  · simp [active, locked]
  · rw [engaged, if_pos ⟨succeeds.1, unlocked⟩]
  · rw [failed, if_pos ⟨restricts, unlocked⟩]

theorem applyCall_engine_locked_iff :
    (engine.applyCall call).engine.locked = true ↔
      engine.locked = true ∨ call.Succeeds := by
  rcases engine.applyCall_cases call with ⟨notRestricts, _, unchanged, _⟩ |
    ⟨_, locked, active⟩ | ⟨succeeds, _, engaged⟩ | ⟨_, notSent, unlocked, failed⟩
  · rw [unchanged]
    exact (or_iff_left fun succeeds => notRestricts succeeds.1).symm
  · rw [active]
    exact iff_of_true locked (.inl locked)
  · rw [engaged]
    exact iff_of_true rfl (.inr succeeds)
  · simp [failed, unlocked, Call.Succeeds, notSent]

theorem applyCall_report_eq_engaged_iff :
    (engine.applyCall call).report = engagedReport ↔
      (engine.applyCall call).sends = [call.attempt] ∧ call.attempt.sent = true := by
  rcases engine.applyCall_cases call with ⟨_, noSends, _, noReport⟩ |
    ⟨_, _, active⟩ | ⟨succeeds, _, engaged⟩ | ⟨_, notSent, _, failed⟩
  · rw [noSends]
    exact iff_of_false (fun engaged => noReport (.inl engaged)) (by simp)
  · rw [active]
    exact iff_of_false (by decide : activeReport ≠ engagedReport) (by simp)
  · rw [engaged]
    exact iff_of_true rfl ⟨rfl, succeeds.2⟩
  · rw [failed, notSent]
    exact iff_of_false (by decide : failedReport ≠ engagedReport) (by simp)

theorem applyCall_report_eq_failed_iff :
    (engine.applyCall call).report = failedReport ↔
      (engine.applyCall call).sends = [call.attempt] ∧ call.attempt.sent = false := by
  rcases engine.applyCall_cases call with ⟨_, noSends, _, noReport⟩ |
    ⟨_, _, active⟩ | ⟨succeeds, _, engaged⟩ | ⟨_, notSent, _, failed⟩
  · rw [noSends]
    exact iff_of_false (fun failed => noReport (.inr (.inl failed))) (by simp)
  · rw [active]
    exact iff_of_false (by decide : activeReport ≠ failedReport) (by simp)
  · rw [engaged, succeeds.2]
    exact iff_of_false (by decide : engagedReport ≠ failedReport) (by simp)
  · rw [failed]
    exact iff_of_true rfl ⟨rfl, notSent⟩

theorem applyCall_report_eq_active_iff :
    (engine.applyCall call).report = activeReport ↔
      engine.locked = true ∧ call.Restricts := by
  rcases engine.applyCall_cases call with ⟨notRestricts, _, _, noReport⟩ |
    ⟨restricts, locked, active⟩ | ⟨_, unlocked, engaged⟩ | ⟨_, _, unlocked, failed⟩
  · exact iff_of_false (fun active => noReport (.inr (.inr active)))
      fun both => notRestricts both.2
  · rw [active]
    exact iff_of_true rfl ⟨locked, restricts⟩
  · rw [engaged, unlocked]
    exact iff_of_false (by decide : engagedReport ≠ activeReport) (by simp)
  · rw [failed, unlocked]
    exact iff_of_false (by decide : failedReport ≠ activeReport) (by simp)

theorem applyCall_engine_of_failed
    (failed : (engine.applyCall call).report = failedReport) :
    (engine.applyCall call).engine = engine := by
  rcases engine.applyCall_cases call with ⟨_, _, unchanged, _⟩ |
    ⟨_, _, active⟩ | ⟨_, _, engaged⟩ | ⟨_, _, _, outcome⟩
  · exact unchanged
  · rw [active]
  · rw [engaged] at failed
    exact absurd (show engagedReport = failedReport from failed) (by decide)
  · rw [outcome]

end Step

/-! ## Runs -/

def Engaged (history : List (Call Double)) : Prop :=
  ∃ call ∈ history, call.Succeeds

instance (history : List (Call Double)) : Decidable (Engaged history) :=
  List.decidableBEx _ _

theorem finalState_locked_iff (calls : List (Call Double)) :
    ((machine Double).finalState {} calls).locked = true ↔ Engaged calls := by
  induction calls using List.reverseRecOn with
  | nil => simp [Engaged]
  | append_singleton calls call induction =>
      rw [Machine.finalState_append]
      refine (applyCall_engine_locked_iff _ call).trans ?_
      rw [induction]
      simp [Engaged, List.mem_append, or_and_right, exists_or]

theorem finalState_unlocked_iff (calls : List (Call Double)) :
    ((machine Double).finalState {} calls).locked = false ↔ ¬Engaged calls := by
  rw [← finalState_locked_iff, Bool.not_eq_true]

/-- What a call sends, reports and changes, given the calls before it. -/
structure Accounts (history : List (Call Double)) (call : Call Double)
    (applied : Applied) : Prop where
  sends : applied.sends =
    if call.Restricts ∧ ¬Engaged history then [call.attempt] else []
  engaged : applied.report = engagedReport ↔
    applied.sends = [call.attempt] ∧ call.attempt.sent = true
  failed : applied.report = failedReport ↔
    applied.sends = [call.attempt] ∧ call.attempt.sent = false
  active : applied.report = activeReport ↔ Engaged history ∧ call.Restricts
  unchanged : applied.report = failedReport →
    applied.engine = (machine Double).finalState {} history

theorem accounts_applyCall (history : List (Call Double)) (call : Call Double) :
    Accounts history call
      (((machine Double).finalState {} history).applyCall call) where
  sends := by simp only [applyCall_sends, finalState_unlocked_iff]
  engaged := applyCall_report_eq_engaged_iff _ call
  failed := applyCall_report_eq_failed_iff _ call
  active := by rw [applyCall_report_eq_active_iff, finalState_locked_iff]
  unchanged := applyCall_engine_of_failed _ call

theorem Accounts.report_eq_engaged_iff {history : List (Call Double)}
    {call : Call Double} {applied : Applied} (accounts : Accounts history call applied) :
    applied.report = engagedReport ↔ call.Succeeds ∧ ¬Engaged history := by
  rw [accounts.engaged, accounts.sends]
  by_cases opens : call.Restricts ∧ ¬Engaged history
  · rw [if_pos opens]
    exact ⟨fun both => ⟨⟨opens.1, both.2⟩, opens.2⟩, fun both => ⟨rfl, both.1.2⟩⟩
  · rw [if_neg opens]
    refine iff_of_false (by simp) ?_
    rintro ⟨succeeds, notEngaged⟩
    exact opens ⟨succeeds.1, notEngaged⟩

theorem accounts_of_getElem? {calls : List (Call Double)} {index : Nat}
    {applied : Applied}
    (isApplied : ((machine Double).outputs {} calls)[index]? = some applied) :
    ∃ call, calls[index]? = some call ∧ Accounts (calls.take index) call applied := by
  rw [Machine.getElem?_outputs] at isApplied
  rcases Option.map_eq_some_iff.mp isApplied with ⟨call, isCall, rfl⟩
  exact ⟨call, isCall, accounts_applyCall (calls.take index) call⟩

theorem exists_first_of_engaged {calls : List (Call Double)} (engaged : Engaged calls) :
    ∃ index call, calls[index]? = some call ∧ call.Succeeds ∧
      ¬Engaged (calls.take index) := by
  induction calls using List.reverseRecOn with
  | nil => simp [Engaged] at engaged
  | append_singleton calls call induction =>
      by_cases before : Engaged calls
      · rcases induction before with ⟨index, first, isFirst, succeeds, fresh⟩
        have inRange := (List.getElem?_eq_some_iff.mp isFirst).1
        refine ⟨index, first, ?_, succeeds, ?_⟩
        · rw [List.getElem?_append_left inRange, isFirst]
        · rw [List.take_append_of_le_length (Nat.le_of_lt inRange)]
          exact fresh
      · refine ⟨calls.length, call, by simp, ?_, by simpa using before⟩
        rcases engaged with ⟨other, member, succeeds⟩
        rcases List.mem_append.mp member with earlier | isLast
        · exact absurd ⟨other, earlier, succeeds⟩ before
        · rw [← List.mem_singleton.mp isLast]
          exact succeeds

theorem engaged_report_unique {calls : List (Call Double)} {first second : Nat}
    {applied applied' : Applied} (lt : first < second)
    (isFirst : ((machine Double).outputs {} calls)[first]? = some applied)
    (isSecond : ((machine Double).outputs {} calls)[second]? = some applied')
    (engaged : applied.report = engagedReport) : applied'.report ≠ engagedReport := by
  rcases accounts_of_getElem? isFirst with ⟨call, isCall, accounts⟩
  rcases accounts_of_getElem? isSecond with ⟨_, _, accounts'⟩
  intro again
  have succeeds := (accounts.report_eq_engaged_iff.mp engaged).1
  apply (accounts'.report_eq_engaged_iff.mp again).2
  refine ⟨call, ?_, succeeds⟩
  apply List.mem_of_getElem? (i := first)
  rw [List.getElem?_take_of_lt lt, isCall]

/-- The engine over a run of decisions. It attempts to send on exactly the
decisions that restrict writes up to the first success, and reports what came of
it; a failure changes nothing. ENGAGED is reported at most once, and the lock is
reported as already engaged only after that. -/
theorem attempts_until_engaged (calls : List (Call Double)) :
    (∀ (index : Nat) (call : Call Double) (applied : Applied),
      calls[index]? = some call →
      ((machine Double).outputs {} calls)[index]? = some applied →
        Accounts (calls.take index) call applied) ∧
    (∀ (first second : Nat) (applied applied' : Applied),
      ((machine Double).outputs {} calls)[first]? = some applied →
      ((machine Double).outputs {} calls)[second]? = some applied' →
      applied.report = engagedReport → applied'.report = engagedReport →
        first = second) ∧
    (∀ (index : Nat) (applied : Applied),
      ((machine Double).outputs {} calls)[index]? = some applied →
      applied.report = activeReport →
        ∃ earlier < index, ∃ applied',
          ((machine Double).outputs {} calls)[earlier]? = some applied' ∧
            applied'.report = engagedReport) := by
  refine ⟨?_, ?_, ?_⟩
  · intro index call applied isCall isApplied
    rcases accounts_of_getElem? isApplied with ⟨other, isOther, accounts⟩
    rw [isCall, Option.some.injEq] at isOther
    rw [isOther]
    exact accounts
  · intro first second applied applied' isFirst isSecond engaged engaged'
    rcases Nat.lt_trichotomy first second with lt | equal | gt
    · exact absurd engaged' (engaged_report_unique lt isFirst isSecond engaged)
    · exact equal
    · exact absurd engaged (engaged_report_unique gt isSecond isFirst engaged')
  · intro index applied isApplied active
    rcases accounts_of_getElem? isApplied with ⟨_, _, accounts⟩
    rcases exists_first_of_engaged (accounts.active.mp active).1 with
      ⟨earlier, first, isFirst, succeeds, fresh⟩
    have lt : earlier < index := by
      have inRange := (List.getElem?_eq_some_iff.mp isFirst).1
      rw [List.length_take] at inRange
      omega
    rw [List.getElem?_take_of_lt lt] at isFirst
    rw [List.take_take, Nat.min_eq_left (Nat.le_of_lt lt)] at fresh
    have accountsFirst := accounts_applyCall (calls.take earlier) first
    refine ⟨earlier, lt, _, ?_,
      accountsFirst.report_eq_engaged_iff.mpr ⟨succeeds, fresh⟩⟩
    rw [Machine.getElem?_outputs, isFirst]
    rfl

def attackCall (answers : SocketAnswers) : Call Float where
  decision := { level := .High, restrictWrites := true, probability := 0.9 }
  answers := answers

/-- A PLC that cannot be reached at first. -/
theorem attempts_until_engaged_of_retry :
    let refused : SocketAnswers := ⟨3, -1, -1, by decide⟩
    let calls := [attackCall refused, attackCall .reachable, attackCall refused]
    ∃ earlier < 2, ∃ applied',
      ((machine Float).outputs {} calls)[earlier]? = some applied' ∧
        applied'.report = engagedReport := by
  intro refused calls
  exact (attempts_until_engaged calls).2.2 2 ⟨activeReport, ⟨true⟩, []⟩ rfl rfl

end EnforcementEngine

end Prism.Enforcement

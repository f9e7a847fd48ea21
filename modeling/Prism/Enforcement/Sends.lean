import Prism.Enforcement.Attempts

/-! # Sends of a run

The engine with its count of attempts. Over a run of decisions it makes one
attempt for each decision that restricts writes, until an attempt succeeds.
-/

namespace Prism.Enforcement

/-- The elements of a list up to the first that has the property, included. -/
def upToFirst (holds : α → Bool) : List α → List α
  | [] => []
  | element :: rest =>
      if holds element then [element] else element :: upToFirst holds rest

theorem upToFirst_eq_nil_iff {holds : α → Bool} {elements : List α} :
    upToFirst holds elements = [] ↔ elements = [] := by
  cases elements with
  | nil => exact iff_of_true rfl rfl
  | cons first rest =>
      unfold upToFirst
      split
      · simp
      · simp

theorem exists_mem_upToFirst_iff {holds : α → Bool} {elements : List α} :
    (∃ element ∈ upToFirst holds elements, holds element = true) ↔
      ∃ element ∈ elements, holds element = true := by
  induction elements with
  | nil => rfl
  | cons first rest induction =>
      rw [upToFirst]
      cases found : holds first with
      | true => simp [found]
      | false => simp [found, induction]

structure Attempting where
  engine : EnforcementEngine := {}
  attempts : Nat := 0
  deriving DecidableEq, Repr

namespace Attempting

variable {Double : Type}

/-- Every call of `apply` gets the answers to the next attempt; it reports its
string and what it sent. -/
def machine (Double : Type) (answers : Nat → SocketAnswers) :
    Machine Attempting (RiskDecision Double) (String × List Send) where
  step state decision :=
    let applied := state.engine.apply decision (answers state.attempts)
    (⟨applied.engine, state.attempts + applied.sends.length⟩,
      (applied.report, applied.sends))

def restricts (decision : RiskDecision Double) : Bool :=
  decide (decision.level = .High) && decision.restrictWrites

variable (answers : Nat → SocketAnswers)

/-- The attempts of this number and the ones after it. -/
def attemptsFrom (first count : Nat) : List Send :=
  (List.range' first count).map fun attempt => sendSafetyCoil (answers attempt) 0xFF00

theorem attemptsFrom_succ (first count : Nat) :
    attemptsFrom answers first (count + 1) =
      sendSafetyCoil (answers first) 0xFF00 ::
        attemptsFrom answers (first + 1) count := rfl

theorem step_of_restricts {state : Attempting} {decision : RiskDecision Double}
    (unlocked : state.engine.locked = false) (restricting : restricts decision = true) :
    let send := sendSafetyCoil (answers state.attempts) 0xFF00
    ((machine Double answers).step state decision).1 =
        ⟨⟨send.sent⟩, state.attempts + 1⟩ ∧
      ((machine Double answers).step state decision).2.2 = [send] := by
  intro send
  have both : decision.level = .High ∧ decision.restrictWrites = true := by
    simpa [restricts] using restricting
  have applied :=
    EnforcementEngine.apply_of_unlocked both.1 both.2 unlocked (answers state.attempts)
  cases sent : send.sent with
  | true =>
      rw [if_pos sent] at applied
      simp only [machine, applied]
      exact ⟨rfl, rfl⟩
  | false =>
      rw [if_neg (Bool.eq_false_iff.mp sent)] at applied
      simp only [machine, applied, ← unlocked]
      exact ⟨rfl, rfl⟩

theorem step_of_passive {state : Attempting} {decision : RiskDecision Double}
    (passive : state.engine.locked = true ∨ restricts decision = false) :
    ((machine Double answers).step state decision).1 = state ∧
      ((machine Double answers).step state decision).2.2 = [] := by
  have unchanged :
      (state.engine.apply decision (answers state.attempts)).sends = [] ∧
        (state.engine.apply decision (answers state.attempts)).engine =
          state.engine := by
    rcases passive with locked | notRestricting
    · exact EnforcementEngine.apply_eq_of_locked locked _ _
    · have not : ¬(decision.level = .High ∧ decision.restrictWrites = true) := by
        simpa [restricts] using notRestricting
      rcases EnforcementEngine.apply_of_not_restricting not
        (answers state.attempts) with ⟨noSends, same, _⟩
      exact ⟨noSends, same⟩
  rcases unchanged with ⟨noSends, same⟩
  simp [machine, noSends, same]

theorem run_of_locked {state : Attempting} (locked : state.engine.locked = true)
    (decisions : List (RiskDecision Double)) :
    ((machine Double answers).outputs state decisions).flatMap Prod.snd = [] ∧
      (machine Double answers).finalState state decisions = state := by
  induction decisions with
  | nil => exact ⟨rfl, rfl⟩
  | cons decision decisions induction =>
      rcases step_of_passive answers (Or.inl locked) with ⟨unchanged, noSends⟩
      rw [Machine.outputs_cons, Machine.finalState_cons, List.flatMap_cons, unchanged,
        noSends]
      exact induction

def possibleSends (state : Attempting) (decisions : List (RiskDecision Double)) :
    List Send :=
  attemptsFrom answers state.attempts (decisions.countP restricts)

/-- A run makes one attempt for each decision that restricts writes, up to the
first that succeeds, and the engine is locked afterwards exactly if one did. -/
theorem run_of_unlocked {state : Attempting} (unlocked : state.engine.locked = false)
    (decisions : List (RiskDecision Double)) :
    ((machine Double answers).outputs state decisions).flatMap Prod.snd =
        upToFirst Send.sent (possibleSends answers state decisions) ∧
      (((machine Double answers).finalState state decisions).engine.locked = true ↔
        ∃ send ∈ possibleSends answers state decisions, send.sent = true) := by
  induction decisions generalizing state with
  | nil => simp [possibleSends, attemptsFrom, upToFirst, unlocked]
  | cons decision decisions induction =>
      rw [Machine.outputs_cons, Machine.finalState_cons, List.flatMap_cons]
      cases restricting : restricts decision with
      | false =>
          rcases step_of_passive answers (Or.inr restricting) with ⟨unchanged, noSends⟩
          have same : possibleSends answers state (decision :: decisions) =
              possibleSends answers state decisions := by
            rw [possibleSends, List.countP_cons_of_neg (by simp [restricting])]
            rfl
          rw [same, unchanged, noSends]
          exact induction unlocked
      | true =>
          rcases step_of_restricts answers unlocked restricting with ⟨next, oneSend⟩
          let send := sendSafetyCoil (answers state.attempts) 0xFF00
          have more : possibleSends answers state (decision :: decisions) =
              send :: possibleSends answers ⟨⟨send.sent⟩, state.attempts + 1⟩
                decisions := by
            rw [possibleSends, List.countP_cons_of_pos restricting, attemptsFrom_succ]
            rfl
          rw [more, next, oneSend, upToFirst]
          simp only [List.mem_cons, exists_eq_or_imp]
          cases sent : send.sent with
          | true =>
              have locked : (⟨⟨true⟩, state.attempts + 1⟩ : Attempting).engine.locked =
                  true := rfl
              rcases run_of_locked answers locked decisions with ⟨noMore, unchanged⟩
              rw [noMore, unchanged]
              exact ⟨rfl, iff_of_true rfl (.inl rfl)⟩
          | false =>
              have rest := induction
                (rfl : (⟨⟨false⟩, state.attempts + 1⟩ : Attempting).engine.locked = _)
              rw [rest.1, rest.2]
              exact ⟨rfl, by simp⟩

end Attempting

end Prism.Enforcement

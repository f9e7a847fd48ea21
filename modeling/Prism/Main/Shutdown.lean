import Prism.Foundation.Progress
import Prism.Foundation.Stages
import Prism.Main.Process

/-! # Shutting down

What holds of the two threads in every interleaving: the capture is used while it is
open and closed once, a stopped capture delivers at most one more packet, and a signal
makes `main` end.
-/

namespace Prism.Main

open Prism.Capture

variable {Double : Type} [DoubleArithmetic Double] (environment : Environment)

def Process.start (linktype : Int) (vars : Variables) : Process where
  capture := { linktype := linktype }
  vars := vars

/-! ## The capture is used while it is open -/

/-- `main` is behind its loop. -/
def MainAt.hasLeft : MainAt → Bool
  | .stopping | .breaking | .destroying | .closing | .ended => true
  | _ => false

/-- The destructor has taken the handle. -/
def MainAt.hasTaken : MainAt → Bool
  | .closing | .ended => true
  | _ => false

theorem MainAt.hasTaken_of_not_hasLeft {mainAt : MainAt}
    (inside : mainAt.hasLeft = false) : mainAt.hasTaken = false := by
  cases mainAt <;> first | rfl | cases inside

/-- The capture is used before its destructor takes the handle, or by the destructor to
close it. -/
def Process.UsesOpen (process : Process) : Option CaptureUse → Prop
  | none => True
  | some (.handle .close) => process.mainAt = .closing
  | some _ => process.mainAt.hasTaken = false

def Observed.closes (observed : Observed Double) : Bool :=
  observed.use == some (.handle .close)

namespace Process

/-- `poll` does not fail for another reason than a signal. -/
def Turn.Polls : Turn → Prop
  | .main answers => answers.polled ≠ .failed
  | .watcher _ => True

def Opened (process : Process) : Prop :=
  process.capture.handle = !process.mainAt.hasTaken

/-- `main` leaves its loop behind `sig_watcher`. -/
structure Orderly (process : Process) : Prop where
  left : process.mainAt.hasLeft = true → process.running = false
  cleared : process.running = false → process.watcherAt = .ended

theorem orderly_start (linktype : Int) (vars : Variables) :
    Orderly (start linktype vars) where
  left left := by cases left
  cleared cleared := by cases cleared

theorem Orderly.running {process : Process} (orderly : Orderly process)
    (watching : process.watcherAt ≠ .ended) :
    process.running = true ∧ process.mainAt.hasLeft = false := by
  have running : process.running = true := by
    rw [← Bool.not_eq_false]
    exact fun cleared => watching (orderly.cleared cleared)
  refine ⟨running, ?_⟩
  rw [← Bool.not_eq_true]
  intro left
  rw [orderly.left left] at running
  cases running

theorem handle_beginStop (capture : PcapCapture) :
    (beginStop capture).1.handle = capture.handle := by
  unfold beginStop
  split <;> rfl

omit [DoubleArithmetic Double] in
theorem Orderly.watcherStep {process : Process} (orderly : Orderly process) (rc : Int) :
    Orderly (process.watcherStep Double rc).1 := by
  unfold Process.watcherStep
  cases position : process.watcherAt with
  | ended => exact orderly
  | clearing =>
      exact
        { left := fun _ => rfl
          cleared := fun _ => rfl }
  | waiting | stopping | breaking =>
      have running := orderly.running (by simp [position])
      exact
        { left := orderly.left
          cleared := fun cleared => by simp [running.1] at cleared }

theorem Follows.hasLeft {process : Process} {polled : Polled} {position next : MainAt}
    (follows : process.Follows polled position next) (polls : polled ≠ .failed)
    (left : next.hasLeft = true) :
    position.hasLeft = true ∨ process.running = false := by
  cases follows with
  | leave cleared => exact .inr cleared
  | failed failed => exact absurd failed polls
  | stop | stopped | broken | close | nothing | closed | ended => exact .inl rfl
  | _ => cases left

theorem Follows.hasTaken {process : Process} {polled : Polled} {position next : MainAt}
    (follows : process.Follows polled position next) :
    next.hasTaken = (position.hasTaken || position == .destroying) := by
  cases follows <;> rfl

theorem Follows.ended_iff {process : Process} {polled : Polled} {position next : MainAt}
    (follows : process.Follows polled position next)
    (opened : process.capture.handle = !position.hasTaken) :
    next = .ended ↔ position = .closing ∨ position = .ended := by
  cases follows with
  | nothing absent => simp [absent, MainAt.hasTaken] at opened
  | _ => simp

theorem Orderly.mainStep {process : Process} (orderly : Orderly process)
    {answers : Answers} (polls : answers.polled ≠ .failed) :
    Orderly (process.mainStep Double environment answers).1 := by
  have follows := process.mainStep_follows Double environment answers
  rcases process.mainStep_shared Double environment answers with
    ⟨running, watcherAt, _⟩
  exact
    { left := by
        intro left
        rw [running]
        exact (follows.hasLeft polls left).elim orderly.left id
      cleared := by
        rw [running, watcherAt]
        exact orderly.cleared }

theorem Orderly.step {process : Process} (orderly : Orderly process) {turn : Turn}
    (polls : turn.Polls) :
    Orderly ((machine Double environment).step process turn).1 := by
  cases turn with
  | watcher rc => exact orderly.watcherStep rc
  | main answers => exact orderly.mainStep environment polls

theorem Opened.step {process : Process} (opened : process.Opened) (turn : Turn) :
    ((machine Double environment).step process turn).1.Opened := by
  unfold Opened at opened
  cases turn with
  | watcher rc =>
      rcases process.watcherStep_frame Double rc with ⟨mainAt, _, _, capture, _⟩
      simp only [machine, Opened, mainAt]
      rcases capture with capture | capture
      · rw [capture, opened]
      · rw [capture, handle_beginStop, opened]
  | main answers =>
      have follows := process.mainStep_follows Double environment answers
      have capture := (process.mainStep_shared Double environment answers).2.2
      simp only [machine, Opened]
      rw [capture, follows.hasTaken]
      cases position : process.mainAt <;> rw [position] at opened <;>
        first | exact opened | rfl | exact (handle_beginStop _).trans opened

theorem usesOpen_nextUse (process : Process) : process.UsesOpen process.nextUse := by
  unfold nextUse
  cases position : process.mainAt with
  | opened => cases process.capture.handle <;> (unfold UsesOpen; rw [position]; rfl)
  | closing => exact position
  | loopHead | polling | drainHead | ended => trivial
  | _ => unfold UsesOpen; rw [position]; rfl

theorem Orderly.usesOpen {process : Process} (orderly : Orderly process) (turn : Turn) :
    process.UsesOpen ((machine Double environment).step process turn).2.use := by
  cases turn with
  | main answers =>
      change process.UsesOpen (process.mainStep Double environment answers).2.use
      rw [mainStep_use]
      exact process.usesOpen_nextUse
  | watcher rc =>
      simp only [machine, Process.watcherStep]
      cases position : process.watcherAt with
      | waiting | clearing | ended => trivial
      | stopping | breaking =>
          exact MainAt.hasTaken_of_not_hasLeft (orderly.running (by simp [position])).2

def closed (process : Process) : Nat := if process.mainAt = .ended then 1 else 0

theorem closes_iff (process : Process) (answers : Answers) :
    (process.mainStep Double environment answers).2.closes = true ↔
      process.mainAt = .closing := by
  rw [Observed.closes, mainStep_use, nextUse]
  cases process.mainAt with
  | opened => cases process.capture.handle <;> simp
  | _ => simp

theorem Opened.closed_step {process : Process} (opened : process.Opened) (turn : Turn) :
    let next := (machine Double environment).step process turn
    next.1.closed = (if next.2.closes then 1 else 0) + process.closed := by
  cases turn with
  | watcher rc =>
      rcases process.watcherStep_frame Double rc with ⟨mainAt, _, use, _⟩
      simp only [machine, closed, mainAt, Observed.closes]
      rcases use with use | use | use <;> simp [use]
  | main answers =>
      have follows := process.mainStep_follows Double environment answers
      have reaches := follows.ended_iff opened
      simp only [machine, closes_iff, closed, reaches]
      by_cases closing : process.mainAt = .closing
      · simp [closing]
      · simp [closing]

theorem countP_closes (linktype : Int) (vars : Variables) (turns : List Turn) :
    let machine := machine Double environment
    let start := start linktype vars
    (machine.outputs start turns).countP Observed.closes =
      (machine.finalState start turns).closed := by
  intro machine start
  have always : machine.Always Opened start turns := by
    intro before _
    exact machine.finalState_invariant (fun _ turn opened => opened.step environment turn)
      (rfl : start.Opened) before
  exact machine.countP_outputs_add_counter
    (fun _ turn opened => opened.closed_step environment turn) always

/-! ## Every interleaving in which `poll` does not fail -/

/-- As long as `poll` fails only for a signal, no thread uses the capture any more once
its destructor has taken the handle, and the handle is closed exactly once if `main`
ends and not before. -/
theorem capture_closed_last (linktype : Int) (vars : Variables) (turns : List Turn)
    (polls : ∀ turn ∈ turns, turn.Polls) :
    let machine := machine Double environment
    let start := start linktype vars
    machine.Along (fun process turn => process.UsesOpen (machine.step process turn).2.use)
        start turns ∧
      (machine.outputs start turns).countP Observed.closes =
        (machine.finalState start turns).closed := by
  intro machine start
  have allowed := machine.along_of_forall_mem start polls
  have always : machine.Always Orderly start turns :=
    machine.always_of_along (fun _ _ orderly polls => orderly.step environment polls)
      (orderly_start linktype vars) allowed
  constructor
  · rintro before turn after rfl
    exact (always before (List.prefix_append _ _)).usesOpen environment turn
  · exact countP_closes environment linktype vars turns

def signalled : List Turn :=
  List.replicate 4 (.watcher 0) ++ List.replicate 8 (.main {})

theorem capture_closed_last_of_signal :
    let machine := machine Float ⟨.byInsertion, fun _ => .reachable⟩
    (machine.outputs (start DLT_EN10MB {}) signalled).countP Observed.closes = 1 :=
  (capture_closed_last ⟨.byInsertion, fun _ => .reachable⟩ DLT_EN10MB {} signalled
    (by
      intro turn member
      rcases List.mem_append.mp member with first | second
      · rw [List.eq_of_mem_replicate first]
        trivial
      · rw [List.eq_of_mem_replicate second]
        exact Polled.noConfusion)).2

/-- Where `poll` fails while `sig_watcher` is in `stop`, it breaks the loop of a handle
that has been closed. -/
example :
    let machine := machine Float ⟨.byInsertion, fun _ => .reachable⟩
    let ended := machine.finalState (start DLT_EN10MB {})
      ([.watcher 0, .watcher 0] ++ List.replicate 6 (.main { polled := .failed }))
    ended.mainAt = .ended ∧
      (machine.step ended (.watcher 0)).2.use = some (.handle .breakloop) :=
  ⟨rfl, rfl⟩

/-! ## A stopped capture delivers at most one more packet -/

end Process

def MainAt.isReading : MainAt → Bool
  | .reading _ => true
  | _ => false

def Observed.captures (observed : Observed Double) : Bool :=
  match observed.outcome with
  | some (.captured _) => true
  | _ => false

namespace Process

theorem isReading_of_captures {process : Process} {answers : Answers}
    (captures : (process.mainStep Double environment answers).2.captures = true) :
    process.mainAt.isReading = true := by
  rw [Observed.captures, mainStep_outcome, nextOutcome] at captures
  cases position : process.mainAt with
  | reading drained => rfl
  | capturing drained =>
      rw [position] at captures
      dsimp only at captures
      split at captures
      · rename_i captured
        split at captured <;> cases captured
      · cases captures
  | _ =>
      rw [position] at captures
      cases captures

/-- What is already being read can still be captured. -/
def pending (process : Process) : Nat := if process.mainAt.isReading then 1 else 0

theorem pending_le_one (process : Process) : process.pending ≤ 1 := by
  unfold pending
  split <;> simp

theorem Follows.isReading {process : Process} {polled : Polled} {position next : MainAt}
    (follows : process.Follows polled position next)
    (stopped : process.capture.active = false) : next.isReading = false := by
  cases follows with
  | active drained active => cases stopped.symm.trans active
  | _ => rfl

theorem active_beginStop (capture : PcapCapture) :
    (beginStop capture).1.active = false ∨ (beginStop capture).1 = capture := by
  unfold beginStop
  split
  · exact .inr rfl
  · exact .inl rfl

omit [DoubleArithmetic Double] in
theorem watcher_stopped {process : Process} (rc : Int)
    (stopped : process.capture.active = false) :
    (process.watcherStep Double rc).1.capture.active = false := by
  rcases process.watcherStep_frame Double rc with ⟨_, _, _, capture, _⟩
  rcases capture with capture | capture
  · rw [capture, stopped]
  · rw [capture]
    rcases active_beginStop process.capture with inactive | same
    · exact inactive
    · rw [same, stopped]

theorem main_stopped {process : Process} (answers : Answers)
    (stopped : process.capture.active = false) :
    (process.mainStep Double environment answers).1.capture.active = false := by
  rw [(process.mainStep_shared Double environment answers).2.2]
  split
  · rcases active_beginStop process.capture with inactive | same
    · exact inactive
    · rw [same, stopped]
  · rfl
  · exact stopped

theorem pending_step {process : Process} (turn : Turn)
    (stopped : process.capture.active = false) :
    let next := (machine Double environment).step process turn
    next.1.capture.active = false ∧
      (if next.2.captures then 1 else 0) + next.1.pending ≤ process.pending := by
  cases turn with
  | watcher rc =>
      refine ⟨watcher_stopped rc stopped, ?_⟩
      rcases process.watcherStep_frame Double rc with ⟨mainAt, outcome, _⟩
      simp [machine, Observed.captures, outcome, pending, mainAt]
  | main answers =>
      refine ⟨main_stopped environment answers stopped, ?_⟩
      have follows := process.mainStep_follows Double environment answers
      have none : (process.mainStep Double environment answers).1.pending = 0 := by
        rw [pending, follows.isReading stopped]
        rfl
      change (if (process.mainStep Double environment answers).2.captures then 1 else 0) +
        (process.mainStep Double environment answers).1.pending ≤ process.pending
      rw [none, Nat.add_zero, pending]
      by_cases captures :
        (process.mainStep Double environment answers).2.captures = true
      · rw [if_pos captures, if_pos (isReading_of_captures environment captures)]
      · rw [if_neg captures]
        exact Nat.zero_le _

theorem drives_fallback :
    (machine Double environment).Drives (fallbackMachine Double environment)
      Process.vars Observed.outcome Observed.evaluation :=
  fun process turn => process.step_vars environment turn

/-- However the threads are interleaved, what is evaluated is what the loops of `main`
evaluate on the outcomes of `nextPacket`, and once the capture has been stopped at most
one more packet is captured. -/
theorem shutdown_cuts_stream (linktype : Int) (vars : Variables) (turns : List Turn) :
    let machine := machine Double environment
    let start := start linktype vars
    let observed := machine.outputs start turns
    observed.filterMap Observed.evaluation =
        fallbackLoop Double environment vars (observed.filterMap Observed.outcome) ∧
      ∀ before after, turns = before ++ after →
        (machine.finalState start before).capture.active = false →
          (machine.outputs (machine.finalState start before) after).countP
            Observed.captures ≤ 1 := by
  intro machine start observed
  constructor
  · rw [fallbackLoop_eq_outputs]
    exact (drives_fallback environment).answers start turns
  · rintro before after _ stopped
    have paid : (machine.outputs (machine.finalState start before) after).countP
          Observed.captures ≤ pending (machine.finalState start before) :=
      Machine.countP_outputs_le_credit
        (fun (process : Process) turn (stopped : process.capture.active = false) =>
          pending_step environment turn stopped) stopped after
    exact paid.trans (pending_le_one _)

def stoppedWhileReading : List Turn :=
  [.main {}, .main {}, .main {}, .main {}, .main {}, .watcher 0, .watcher 0]

theorem shutdown_cuts_stream_while_reading (after : List Turn) :
    let machine := machine Float ⟨.byInsertion, fun _ => .reachable⟩
    let stopped := machine.finalState (start DLT_EN10MB {}) stoppedWhileReading
    stopped.pending = 1 ∧ (machine.outputs stopped after).countP Observed.captures ≤ 1 :=
  ⟨by decide, (shutdown_cuts_stream ⟨.byInsertion, fun _ => .reachable⟩ DLT_EN10MB {}
    (stoppedWhileReading ++ after)).2 stoppedWhileReading after rfl (by decide)⟩

/-! ## A signal makes `main` end -/

end Process

/-- At most so many steps of `main` are left once `running` has been cleared. -/
def MainAt.stepsLeft : MainAt → Nat
  | .capturing _ => 8
  | .reading _ => 7
  | .polling => 7
  | .drainHead _ => 6
  | .opened => 6
  | .loopHead => 5
  | .stopping => 4
  | .breaking => 3
  | .destroying => 2
  | .closing => 1
  | .ended => 0

def WatcherAt.stepsLeft : WatcherAt → Nat
  | .waiting => 4
  | .stopping => 3
  | .breaking => 2
  | .clearing => 1
  | .ended => 0

theorem MainAt.stepsLeft_le (position : MainAt) : position.stepsLeft ≤ 8 := by
  cases position <;> simp [stepsLeft]

theorem MainAt.stepsLeft_eq_zero {position : MainAt} (none : position.stepsLeft = 0) :
    position = .ended := by
  cases position <;> first | rfl | cases none

theorem WatcherAt.stepsLeft_eq_zero {position : WatcherAt}
    (none : position.stepsLeft = 0) : position = .ended := by
  cases position <;> first | rfl | cases none

namespace Process

theorem Follows.stepsLeft {process : Process} {polled : Polled} {position next : MainAt}
    (follows : process.Follows polled position next)
    (cleared : process.running = false) : next.stepsLeft ≤ position.stepsLeft - 1 := by
  cases follows with
  | poll running | capture running | next _ running =>
      rw [running] at cleared
      cases cleared
  | _ => simp [MainAt.stepsLeft]

variable (Double) in
/-- Nothing sets `running` again, so the thread of `main` runs out of steps. -/
theorem main_descends :
    (machine Double environment).Descends (fun process => process.running = false)
      (fun process => process.mainAt.stepsLeft) Turn.isMain := by
  intro process turn cleared
  cases turn with
  | watcher rc =>
      rcases process.watcherStep_frame Double rc with
        ⟨mainAt, _, _, _, staysCleared⟩
      refine ⟨staysCleared cleared, ?_⟩
      change (process.watcherStep Double rc).1.mainAt.stepsLeft ≤ _
      rw [mainAt]
      exact Nat.le_refl _
  | main answers =>
      have shared := process.mainStep_shared Double environment answers
      have follows := process.mainStep_follows Double environment answers
      exact ⟨shared.1.trans cleared, follows.stepsLeft cleared⟩

variable (Double) in
theorem watcher_descends :
    (machine Double environment).Descends (fun _ => True)
      (fun process => process.watcherAt.stepsLeft) Turn.isWatcher := by
  intro process turn _
  refine ⟨trivial, ?_⟩
  cases turn with
  | main answers =>
      change (process.mainStep Double environment answers).1.watcherAt.stepsLeft ≤ _
      rw [(process.mainStep_shared Double environment answers).2.1]
      exact Nat.le_refl _
  | watcher rc =>
      change (process.watcherStep Double rc).1.watcherAt.stepsLeft ≤
        process.watcherAt.stepsLeft - 1
      unfold Process.watcherStep
      cases position : process.watcherAt with
      | waiting => by_cases signal : rc = 0 <;> simp [WatcherAt.stepsLeft, signal]
      | stopping =>
          cases stops : (beginStop process.capture).2 <;>
            simp [WatcherAt.stepsLeft, stops]
      | breaking | clearing => exact Nat.le_refl _
      | ended =>
          dsimp only
          rw [position]
          exact Nat.le_refl _

def Turn.Signals : Turn → Prop
  | .main _ => True
  | .watcher rc => rc = 0

def ClearedAtEnd (process : Process) : Prop :=
  process.watcherAt = .ended → process.running = false

theorem ClearedAtEnd.step {process : Process} (clears : process.ClearedAtEnd)
    {turn : Turn} (signals : turn.Signals) :
    ((machine Double environment).step process turn).1.ClearedAtEnd := by
  cases turn with
  | main answers =>
      have shared := process.mainStep_shared Double environment answers
      intro ended
      exact shared.1.trans (clears (shared.2.1.symm.trans ended))
  | watcher rc =>
      have signal : rc = 0 := signals
      change (process.watcherStep Double rc).1.ClearedAtEnd
      unfold Process.watcherStep
      cases position : process.watcherAt with
      | waiting =>
          intro ended
          simp [signal] at ended
      | stopping =>
          intro ended
          dsimp only at ended
          split at ended <;> cases ended
      | breaking =>
          intro ended
          cases ended
      | clearing => exact fun _ => rfl
      | ended => exact clears

/-- However the threads are interleaved, and whatever libpcap and `poll` answer: once
`sig_watcher` has taken four steps, the first of which is to receive the signal, `main`
takes at most eight more to end, and the capture has been closed exactly once. -/
theorem signal_ends_main (linktype : Int) (vars : Variables) (before after : List Turn)
    (signals : ∀ turn ∈ before, turn.Signals)
    (watched : 4 ≤ before.countP Turn.isWatcher)
    (scheduled : 8 ≤ after.countP Turn.isMain) :
    let final := (machine Double environment).finalState (start linktype vars)
      (before ++ after)
    final.mainAt = .ended ∧ final.watcherAt = .ended ∧ final.running = false ∧
      ((machine Double environment).outputs (start linktype vars)
        (before ++ after)).countP Observed.closes = 1 := by
  intro final
  let machine := machine Double environment
  let start := start linktype vars
  let stopped := machine.finalState start before
  have isFinal : final = machine.finalState stopped after :=
    machine.finalState_append start before after
  have clears : stopped.ClearedAtEnd :=
    machine.always_of_along (fun _ _ clears signals => clears.step environment signals)
      (fun ended => by cases ended) (machine.along_of_forall_mem start signals) before
      (List.prefix_refl before)
  have watching := watcher_descends Double environment
  have watcherEnded : stopped.watcherAt = .ended :=
    WatcherAt.stepsLeft_eq_zero (watching.rank_eq_zero trivial watched)
  have descends := main_descends Double environment
  have cleared : stopped.running = false := clears watcherEnded
  have enough : stopped.mainAt.stepsLeft ≤ after.countP Turn.isMain :=
    (MainAt.stepsLeft_le _).trans scheduled
  have noneLeft : stopped.watcherAt.stepsLeft ≤ after.countP Turn.isWatcher := by
    rw [watcherEnded]
    exact Nat.zero_le _
  have ended : final.mainAt = .ended := by
    rw [isFinal]
    exact MainAt.stepsLeft_eq_zero (descends.rank_eq_zero cleared enough)
  have closedOnce : final.closed = 1 := by
    rw [closed, if_pos ended]
  refine ⟨ended, ?_, ?_, (countP_closes environment linktype vars _).trans closedOnce⟩
  · rw [isFinal]
    exact WatcherAt.stepsLeft_eq_zero (watching.rank_eq_zero trivial noneLeft)
  · rw [isFinal]
    exact (descends.finalState cleared after).1

theorem signal_ends_main_at_once :
    ((machine Float ⟨.byInsertion, fun _ => .reachable⟩).finalState (start DLT_EN10MB {})
      (List.replicate 4 (.watcher 0) ++ List.replicate 8 (.main {}))).mainAt = .ended :=
  (signal_ends_main ⟨.byInsertion, fun _ => .reachable⟩ DLT_EN10MB {}
    (List.replicate 4 (.watcher 0)) (List.replicate 8 (.main {}))
    (by
      intro turn member
      rw [List.eq_of_mem_replicate member]
      rfl)
    (by decide) (by decide)).1

end Process

end Prism.Main

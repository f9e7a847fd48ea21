import Prism.Main.Loops

/-! # The two threads

The thread of `main` and the thread `sig_watcher` that waits for a signal. They share
the capture, whose members are guarded by its mutex, and the flag `running`. A step of
a thread is what it does from one access to what is shared to the next; libpcap is
called outside the mutex.
-/

namespace Prism.Main

open Prism.Capture

/-! ## What the threads do with the capture -/

inductive PcapCall
  | getSelectableFd
  | nextEx
  | breakloop
  | close
  deriving DecidableEq, Repr

/-- An access to the capture: to its members, or to libpcap through its handle. -/
inductive CaptureUse
  | members
  | handle (call : PcapCall)
  deriving DecidableEq, Repr

/-- What `poll` answers: an error that is `EINTR` or another one, zero, or that there
are events, of which `POLLIN` may be one. -/
inductive Polled
  | interrupted
  | failed
  | timedOut
  | ready (pollin : Bool)
  deriving DecidableEq, Repr

/-- What the operating system answers to a step of `main`, where it asks. -/
structure Answers where
  selectableFd : Int := 0
  polled : Polled := .ready true
  now : Timestamp := 0
  next : NextEx := ⟨0, none⟩

/-! ## Where the threads stand -/

inductive MainAt
  | opened                        -- before `getSelectableFd`
  | loopHead                      -- before `running.load()`
  | polling
  | drainHead (drained : Nat)
  | capturing (drained : Nat)     -- in `nextPacket`, before the lock
  | reading (drained : Nat)       -- in `nextPacket`, with a copy of the handle
  | stopping                      -- in `stop`, before the lock
  | breaking                      -- in `stop`, with a copy of the handle
  | destroying                    -- in the destructor, before the lock
  | closing                       -- in the destructor, with a copy of the handle
  | ended
  deriving DecidableEq, Repr

inductive WatcherAt
  | waiting                       -- in `sigwait`
  | stopping
  | breaking
  | clearing                      -- before `running.store(false)`
  | ended
  deriving DecidableEq, Repr

structure Process where
  capture : PcapCapture := {}
  running : Bool := true
  polls : Bool := false
  vars : Variables := {}
  mainAt : MainAt := .opened
  watcherAt : WatcherAt := .waiting
  deriving DecidableEq, Repr

/-- What can be observed of a step: the access to the capture, the outcome of a call
of `nextPacket` that has returned, and the evaluation it led to. -/
structure Observed (Double : Type) where
  use : Option CaptureUse := none
  outcome : Option CaptureOutcome := none
  evaluation : Option (Evaluation Double) := none

/-- `stop` under the lock: whether it goes on to break the loop of libpcap. -/
def beginStop (capture : PcapCapture) : PcapCapture × Bool :=
  if !capture.handle || !capture.active then
    (capture, false)
  else
    ({ capture with active := false }, true)

namespace Process

/-! ## The steps -/

section Steps

variable (Double : Type) [DoubleArithmetic Double] (environment : Environment)

/-- What follows a call of `nextPacket`, in the loop that `main` is in. -/
def goOn (process : Process) (drained : Nat) (use : CaptureUse) :
    CaptureOutcome → Process × Observed Double
  | .failed leftover =>
      ({ process with
          vars := { process.vars with packet := leftover }
          mainAt := .loopHead },
        { use := some use
          outcome := some (.failed leftover) })
  | .captured packet =>
      let vars := { process.vars with packet := packet }
      if process.polls then
        let iteration := drainBody Double environment vars drained
        ({ process with
            vars := iteration.vars
            mainAt := .drainHead iteration.drained },
          { use := some use
            outcome := some (.captured packet)
            evaluation := iteration.evaluation })
      else
        let next := fallbackBody Double environment vars
        ({ process with
            vars := next.1
            mainAt := .loopHead },
          { use := some use
            outcome := some (.captured packet)
            evaluation := next.2 })

def mainStep (process : Process) (answers : Answers) : Process × Observed Double :=
  match process.mainAt with
  | .opened =>
      if !process.capture.handle then
        ({ process with polls := false, mainAt := .loopHead }, { use := some .members })
      else
        ({ process with
            polls := decide (0 ≤ answers.selectableFd)
            mainAt := .loopHead },
          { use := some (.handle .getSelectableFd) })
  | .loopHead =>
      if !process.running then
        ({ process with mainAt := .stopping }, {})
      else if process.polls then
        ({ process with mainAt := .polling }, {})
      else
        ({ process with mainAt := .capturing 0 }, {})
  | .polling =>
      match answers.polled with
      | .interrupted => ({ process with mainAt := .loopHead }, {})
      | .failed => ({ process with mainAt := .stopping }, {})
      | .timedOut => ({ process with mainAt := .loopHead }, {})
      | .ready pollin =>
          ({ process with mainAt := if pollin then .drainHead 0 else .loopHead }, {})
  | .drainHead drained =>
      if process.running && drained < maxDrain then
        ({ process with mainAt := .capturing drained }, {})
      else
        ({ process with mainAt := .loopHead }, {})
  | .capturing drained =>
      if !process.capture.handle || !process.capture.active then
        process.goOn Double environment drained .members (.failed process.vars.packet)
      else
        ({ process with mainAt := .reading drained }, { use := some .members })
  | .reading drained =>
      let copied : PcapCapture := { linktype := process.capture.linktype }
      process.goOn Double environment drained (.handle .nextEx)
        (.ofCall copied answers.now answers.next process.vars.packet)
  | .stopping =>
      let stopped := beginStop process.capture
      ({ process with
          capture := stopped.1
          mainAt := if stopped.2 then .breaking else .destroying },
        { use := some .members })
  | .breaking =>
      ({ process with mainAt := .destroying }, { use := some (.handle .breakloop) })
  | .destroying =>
      ({ process with
          capture := { process.capture with
            handle := false
            active := false }
          mainAt := if process.capture.handle then .closing else .ended },
        { use := some .members })
  | .closing => ({ process with mainAt := .ended }, { use := some (.handle .close) })
  | .ended => (process, {})

def watcherStep (process : Process) (rc : Int) : Process × Observed Double :=
  match process.watcherAt with
  | .waiting =>
      ({ process with watcherAt := if rc = 0 then .stopping else .ended }, {})
  | .stopping =>
      let stopped := beginStop process.capture
      ({ process with
          capture := stopped.1
          watcherAt := if stopped.2 then .breaking else .clearing },
        { use := some .members })
  | .breaking =>
      ({ process with watcherAt := .clearing }, { use := some (.handle .breakloop) })
  | .clearing => ({ process with running := false, watcherAt := .ended }, {})
  | .ended => (process, {})

end Steps

inductive Turn
  | main (answers : Answers)
  | watcher (rc : Int)

def Turn.isMain : Turn → Bool
  | .main _ => true
  | .watcher _ => false

def Turn.isWatcher : Turn → Bool
  | .main _ => false
  | .watcher _ => true

def machine (Double : Type) [DoubleArithmetic Double] (environment : Environment) :
    Machine Process Turn (Observed Double) where
  step process
    | .main answers => process.mainStep Double environment answers
    | .watcher rc => process.watcherStep Double rc

/-! ## What is evaluated -/

variable {Double : Type} [DoubleArithmetic Double] (environment : Environment)

/-- A call of `nextPacket` that returns takes the variables of `main` one step of the
fallback loop further, whichever loop it stands in. -/
theorem goOn_vars (process : Process) (drained : Nat) (use : CaptureUse)
    (outcome : CaptureOutcome) :
    let next := process.goOn Double environment drained use outcome
    (next.1.vars, next.2.evaluation) =
      (fallbackMachine Double environment).passing.step process.vars next.2.outcome := by
  cases outcome with
  | failed leftover => rfl
  | captured packet =>
      have sameBody : _ = fallbackBody Double environment _ :=
        drainBody_eq_fallbackBody environment
        { process.vars with packet := packet } drained
      unfold goOn
      cases process.polls with
      | true => exact sameBody
      | false => rfl

theorem step_vars (process : Process) (turn : Turn) :
    let next := (machine Double environment).step process turn
    (next.1.vars, next.2.evaluation) =
      (fallbackMachine Double environment).passing.step process.vars next.2.outcome := by
  cases turn with
  | watcher rc =>
      simp only [machine, watcherStep]
      cases process.watcherAt <;> rfl
  | main answers =>
      simp only [machine, mainStep]
      cases process.mainAt with
      | opened => cases process.capture.handle <;> rfl
      | loopHead => cases process.running <;> cases process.polls <;> rfl
      | polling => cases answers.polled <;> rfl
      | drainHead drained =>
          dsimp only
          split <;> rfl
      | capturing drained =>
          dsimp only
          split
          · exact process.goOn_vars environment drained _ _
          · rfl
      | reading drained => exact process.goOn_vars environment drained _ _
      | stopping => rfl
      | breaking => rfl
      | destroying => rfl
      | closing => rfl
      | ended => rfl

/-! ## What else a step can do -/

variable (Double)

theorem goOn_frame (process : Process) (drained : Nat) (use : CaptureUse)
    (outcome : CaptureOutcome) :
    let next := process.goOn Double environment drained use outcome
    next.2.use = some use ∧ next.2.outcome = some outcome ∧
      ∃ vars mainAt, next.1 = { process with vars := vars, mainAt := mainAt } ∧
        (mainAt = .loopHead ∨ ∃ drained, mainAt = .drainHead drained) := by
  cases outcome with
  | failed leftover => exact ⟨rfl, rfl, _, _, rfl, .inl rfl⟩
  | captured packet =>
      unfold goOn
      cases process.polls with
      | true => exact ⟨rfl, rfl, _, _, rfl, .inr ⟨_, rfl⟩⟩
      | false => exact ⟨rfl, rfl, _, _, rfl, .inl rfl⟩

inductive Follows (process : Process) (polled : Polled) : MainAt → MainAt → Prop
  | opened : Follows process polled .opened .loopHead
  | leave (cleared : process.running = false) :
      Follows process polled .loopHead .stopping
  | poll (running : process.running = true) : Follows process polled .loopHead .polling
  | capture (running : process.running = true) :
      Follows process polled .loopHead (.capturing 0)
  | silent : Follows process polled .polling .loopHead
  | readable : Follows process polled .polling (.drainHead 0)
  | failed (failed : polled = .failed) : Follows process polled .polling .stopping
  | drained (drained : Nat) : Follows process polled (.drainHead drained) .loopHead
  | next (drained : Nat) (running : process.running = true) :
      Follows process polled (.drainHead drained) (.capturing drained)
  | inactive (drained : Nat) : Follows process polled (.capturing drained) .loopHead
  | active (drained : Nat) (active : process.capture.active = true) :
      Follows process polled (.capturing drained) (.reading drained)
  | returned (drained : Nat) : Follows process polled (.reading drained) .loopHead
  | counted (drained next : Nat) :
      Follows process polled (.reading drained) (.drainHead next)
  | stop : Follows process polled .stopping .breaking
  | stopped : Follows process polled .stopping .destroying
  | broken : Follows process polled .breaking .destroying
  | close : Follows process polled .destroying .closing
  | nothing (absent : process.capture.handle = false) :
      Follows process polled .destroying .ended
  | closed : Follows process polled .closing .ended
  | ended : Follows process polled .ended .ended

def nextUse (process : Process) : Option CaptureUse :=
  match process.mainAt with
  | .opened =>
      some (if process.capture.handle then .handle .getSelectableFd else .members)
  | .capturing _ => some .members
  | .reading _ => some (.handle .nextEx)
  | .stopping => some .members
  | .breaking => some (.handle .breakloop)
  | .destroying => some .members
  | .closing => some (.handle .close)
  | _ => none

def nextOutcome (process : Process) (answers : Answers) : Option CaptureOutcome :=
  match process.mainAt with
  | .capturing _ =>
      if !process.capture.handle || !process.capture.active then
        some (.failed process.vars.packet)
      else
        none
  | .reading _ =>
      some (.ofCall { linktype := process.capture.linktype } answers.now answers.next
        process.vars.packet)
  | _ => none

theorem mainStep_outcome (process : Process) (answers : Answers) :
    (process.mainStep Double environment answers).2.outcome =
      process.nextOutcome answers := by
  unfold mainStep nextOutcome
  cases position : process.mainAt with
  | opened => cases process.capture.handle <;> rfl
  | loopHead => cases process.running <;> cases process.polls <;> rfl
  | polling => cases answers.polled <;> rfl
  | drainHead drained =>
      dsimp only
      split <;> rfl
  | capturing drained =>
      dsimp only
      split <;> rfl
  | reading drained => exact (process.goOn_frame Double environment drained _ _).2.1
  | stopping => rfl
  | breaking => rfl
  | destroying => rfl
  | closing => rfl
  | ended => rfl

theorem mainStep_use (process : Process) (answers : Answers) :
    (process.mainStep Double environment answers).2.use = process.nextUse := by
  unfold mainStep nextUse
  cases position : process.mainAt with
  | opened => cases process.capture.handle <;> rfl
  | loopHead => cases process.running <;> cases process.polls <;> rfl
  | polling => cases answers.polled <;> rfl
  | drainHead drained =>
      dsimp only
      split <;> rfl
  | capturing drained =>
      dsimp only
      split <;> rfl
  | reading drained => exact (process.goOn_frame Double environment drained _ _).1
  | stopping => rfl
  | breaking => rfl
  | destroying => rfl
  | closing => rfl
  | ended => rfl

theorem mainStep_follows (process : Process) (answers : Answers) :
    process.Follows answers.polled process.mainAt
      (process.mainStep Double environment answers).1.mainAt := by
  unfold mainStep
  cases position : process.mainAt with
  | opened => cases process.capture.handle <;> exact .opened
  | loopHead =>
      cases running : process.running with
      | false => exact .leave running
      | true =>
          cases process.polls with
          | true => exact .poll running
          | false => exact .capture running
  | polling =>
      cases polled : answers.polled with
      | interrupted => exact .silent
      | failed => exact .failed rfl
      | timedOut => exact .silent
      | ready pollin =>
          cases pollin with
          | true => exact .readable
          | false => exact .silent
  | drainHead drained =>
      dsimp only
      split
      · rename_i goesOn
        exact .next drained (Bool.and_eq_true_iff.mp goesOn).1
      · exact .drained drained
  | capturing drained =>
      dsimp only
      split
      · exact .inactive drained
      · rename_i opened
        exact .active drained (by simp_all)
  | reading drained =>
      dsimp only
      rcases process.goOn_frame Double environment drained
        (.handle .nextEx) _ with ⟨_, _, vars, mainAt, next, rfl | ⟨counted, rfl⟩⟩
      · rw [next]
        exact .returned drained
      · rw [next]
        exact .counted drained counted
  | stopping =>
      dsimp only
      split
      · exact .stop
      · exact .stopped
  | breaking => exact .broken
  | destroying =>
      cases handle : process.capture.handle with
      | true => exact .close
      | false => exact .nothing handle
  | closing => exact .closed
  | ended =>
      dsimp only
      rw [position]
      exact .ended

theorem mainStep_shared (process : Process) (answers : Answers) :
    let next := (process.mainStep Double environment answers).1
    next.running = process.running ∧ next.watcherAt = process.watcherAt ∧
      next.capture =
        match process.mainAt with
        | .stopping => (beginStop process.capture).1
        | .destroying =>
            { process.capture with
              handle := false
              active := false }
        | _ => process.capture := by
  unfold mainStep
  cases position : process.mainAt with
  | opened => cases process.capture.handle <;> exact ⟨rfl, rfl, rfl⟩
  | loopHead => cases process.running <;> cases process.polls <;> exact ⟨rfl, rfl, rfl⟩
  | polling => cases answers.polled <;> exact ⟨rfl, rfl, rfl⟩
  | drainHead drained =>
      dsimp only
      split <;> exact ⟨rfl, rfl, rfl⟩
  | capturing drained =>
      dsimp only
      split <;> exact ⟨rfl, rfl, rfl⟩
  | reading drained =>
      dsimp only
      rcases process.goOn_frame Double environment drained
        (.handle .nextEx) _ with ⟨_, _, vars, mainAt, next, _⟩
      rw [next]
      exact ⟨rfl, rfl, rfl⟩
  | stopping => exact ⟨rfl, rfl, rfl⟩
  | breaking => exact ⟨rfl, rfl, rfl⟩
  | destroying => exact ⟨rfl, rfl, rfl⟩
  | closing => exact ⟨rfl, rfl, rfl⟩
  | ended => exact ⟨rfl, rfl, rfl⟩

omit [DoubleArithmetic Double] in
/-- `sig_watcher` can only stop the capture and clear `running`. -/
theorem watcherStep_frame (process : Process) (rc : Int) :
    let next := process.watcherStep Double rc
    next.1.mainAt = process.mainAt ∧ next.2.outcome = none ∧
      (next.2.use = none ∨ next.2.use = some .members ∨
        next.2.use = some (.handle .breakloop)) ∧
      (next.1.capture = process.capture ∨
        next.1.capture = (beginStop process.capture).1) ∧
      (process.running = false → next.1.running = false) := by
  unfold watcherStep
  cases process.watcherAt with
  | waiting => exact ⟨rfl, rfl, .inl rfl, .inl rfl, id⟩
  | stopping => exact ⟨rfl, rfl, .inr (.inl rfl), .inr rfl, id⟩
  | breaking => exact ⟨rfl, rfl, .inr (.inr rfl), .inl rfl, id⟩
  | clearing => exact ⟨rfl, rfl, .inl rfl, .inl rfl, fun _ => rfl⟩
  | ended => exact ⟨rfl, rfl, .inl rfl, .inl rfl, id⟩

end Process

end Prism.Main

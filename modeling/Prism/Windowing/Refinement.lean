import Mathlib.Algebra.Order.Group.Int
import Prism.Foundation.NaiveRuns
import Prism.Windowing.WindowManager

/-! # The pruning window manager refines the naive sliding window

`advance` pops records from the front only. That loses nothing because the
monotonicity test keeps the buffer in time order, and because no later window
starts before the bound it pops up to.
-/

namespace Prism.Windowing.WindowManager

open SlidingWindow

variable {Record : Type} [Timestamped Record]

/-! ## The refinement relation -/

/-- The records a window of this index or a later one can hold. -/
def since (schedule : Schedule Timestamp) (index : Nat) (records : List Record) :
    List Record :=
  records.filter fun record =>
    decide (schedule.start index ≤ timestamp record)

theorem since_append (schedule : Schedule Timestamp) (index : Nat)
    (first second : List Record) :
    since schedule index (first ++ second) =
      since schedule index first ++ since schedule index second :=
  List.filter_append ..

theorem since_since {schedule : Schedule Timestamp}
    (stepNonneg : 0 ≤ schedule.step) {earlier later : Nat}
    (le : earlier ≤ later) (records : List Record) :
    since schedule later (since schedule earlier records) =
      since schedule later records := by
  rw [since, since, since, List.filter_filter]
  refine List.filter_congr ?_
  intro record _
  have startLe := Schedule.start_mono stepNonneg le
  by_cases started : schedule.start later ≤ timestamp record
  · simp [started, startLe.trans started]
  · simp [started]

theorem start_eq (schedule : Schedule Timestamp) (index : Nat) :
    schedule.start index = schedule.origin + index * schedule.step := rfl

theorem finish_eq (schedule : Schedule Timestamp) (index : Nat) :
    schedule.finish index =
      schedule.origin + schedule.size + index * schedule.step := rfl

/-- A manager that has accepted at least one record, against the naive state it
stands for: the buffer is a part of the history that has lost only records which
no window still to come can hold. -/
structure Running (schedule : Schedule Timestamp) (manager : WindowManager Record)
    (state : Naive Record) : Prop where
  windowSize : manager.windowSize = schedule.size
  stepSize : manager.stepSize = schedule.step
  initialized : manager.initialized = true
  origin : state.history.head?.map timestamp = some schedule.origin
  lastTime : state.history.getLast?.map timestamp = some manager.lastTime
  inOrder : InOrder timestamp state.history
  nextEmitTime : manager.nextEmitTime = schedule.finish state.emitted
  sublist : manager.buffer.Sublist state.history
  buffer : since schedule state.emitted manager.buffer =
    since schedule state.emitted state.history

def Tracks (windowSize stepSize : Duration) (manager : WindowManager Record)
    (state : Naive Record) : Prop :=
  manager = create windowSize stepSize ∧ state = ⟨[], 0⟩ ∨
    ∃ origin, Running ⟨origin, windowSize, stepSize⟩ manager state

theorem Running.scheduleOf_eq {schedule : Schedule Timestamp}
    {manager : WindowManager Record} {state : Naive Record}
    (running : Running schedule manager state) (record : Record) :
    scheduleOf timestamp schedule.size schedule.step state.history record =
      schedule := by
  have origin := running.origin
  cases history : state.history with
  | nil => simp [history] at origin
  | cons first rest =>
      rw [history, List.head?_cons, Option.map_some, Option.some.injEq] at origin
      simp [scheduleOf, origin]

theorem Tracks.rejects_eq_false_iff {windowSize stepSize : Duration}
    {manager : WindowManager Record} {state : Naive Record}
    (tracks : Tracks windowSize stepSize manager state) (record : Record) :
    manager.rejects record = false ↔
      Admissible timestamp state.history record := by
  rcases tracks with ⟨rfl, rfl⟩ | ⟨origin, running⟩
  · simp [rejects, create, Admissible]
  · have lastTime := running.lastTime
    cases isLast : state.history.getLast? with
    | none => simp [isLast] at lastTime
    | some last =>
        rw [isLast, Option.map_some, Option.some.injEq] at lastTime
        simp [rejects, running.initialized, Admissible, isLast, lastTime]

theorem Tracks.rejects_of_not_admissible {windowSize stepSize : Duration}
    {manager : WindowManager Record} {state : Naive Record}
    (tracks : Tracks windowSize stepSize manager state) {record : Record}
    (notAdmissible : ¬Admissible timestamp state.history record) :
    manager.rejects record = true := by
  by_contra notRejected
  exact notAdmissible ((tracks.rejects_eq_false_iff record).mp
    (Bool.eq_false_of_not_eq_true notRejected))

theorem Tracks.push_running {windowSize stepSize : Duration}
    {manager : WindowManager Record} {state : Naive Record}
    (tracks : Tracks windowSize stepSize manager state) {record : Record}
    (admissible : Admissible timestamp state.history record) :
    Running (scheduleOf timestamp windowSize stepSize state.history record)
      (manager.push record) ⟨state.history ++ [record], state.emitted⟩ := by
  rcases tracks with ⟨rfl, rfl⟩ | ⟨origin, running⟩
  · have fresh : (create windowSize stepSize : WindowManager Record).initialized =
        false := rfl
    refine
      { windowSize := by simp [create, scheduleOf]
        stepSize := by simp [create, scheduleOf]
        initialized := push_initialized _ _
        origin := by simp [scheduleOf]
        lastTime := by simp
        inOrder := List.pairwise_singleton _ _
        nextEmitTime := ?_
        sublist := by simp [create]
        buffer := by simp [create] }
    rw [push_nextEmitTime_of_fresh fresh]
    simp [create, scheduleOf, Schedule.finish]
  · have sameSchedule := running.scheduleOf_eq record
    change scheduleOf timestamp windowSize stepSize state.history record = _
      at sameSchedule
    rw [sameSchedule]
    have originFirst := running.origin
    refine
      { windowSize := by simpa using running.windowSize
        stepSize := by simpa using running.stepSize
        initialized := push_initialized _ _
        origin := ?_
        lastTime := by simp
        inOrder := running.inOrder.concat admissible
        nextEmitTime := ?_
        sublist := ?_
        buffer := ?_ }
    · cases history : state.history with
      | nil => simp [history] at originFirst
      | cons first rest => simpa [history] using originFirst
    · rw [push_nextEmitTime_of_initialized running.initialized]
      exact running.nextEmitTime
    · rw [push_buffer]
      exact running.sublist.append (List.Sublist.refl _)
    · rw [push_buffer, since_append, since_append, running.buffer]

theorem Running.advance {schedule : Schedule Timestamp}
    {manager : WindowManager Record} {state : Naive Record}
    (running : Running schedule manager state)
    (stepNonneg : 0 ≤ schedule.step) :
    Running schedule manager.advance ⟨state.history, state.emitted + 1⟩ := by
  have nextEmitTime :
      manager.advance.nextEmitTime = schedule.finish (state.emitted + 1) := by
    rw [advance_nextEmitTime, running.nextEmitTime, running.stepSize,
      Schedule.finish_succ]
  have oldestNeeded :
      manager.nextEmitTime + manager.stepSize - manager.windowSize =
        schedule.start (state.emitted + 1) := by
    rw [Schedule.start_eq_finish_sub, ← nextEmitTime, running.windowSize]
    rfl
  have pruned : manager.advance.buffer =
      since schedule (state.emitted + 1) manager.buffer := by
    rw [since, ← oldestNeeded]
    exact dropWhile_eq_filter (running.inOrder.sublist running.sublist) _
  refine
    { windowSize := running.windowSize
      stepSize := running.stepSize
      initialized := running.initialized
      origin := running.origin
      lastTime := running.lastTime
      inOrder := running.inOrder
      nextEmitTime := nextEmitTime
      sublist := ?_
      buffer := ?_ }
  · rw [pruned]
    exact List.filter_sublist.trans running.sublist
  · rw [pruned, since_since stepNonneg le_rfl,
      ← since_since stepNonneg (Nat.le_succ state.emitted) manager.buffer,
      running.buffer, since_since stepNonneg (Nat.le_succ state.emitted)]

/-- The window handed out is the naive one, although it is filled from the
pruned buffer. -/
theorem Running.fill_eq {schedule : Schedule Timestamp}
    {manager : WindowManager Record} {state : Naive Record}
    (running : Running schedule manager state) :
    manager.fill =
      { startTime := schedule.start state.emitted
        endTime := schedule.finish state.emitted
        records := schedule.snapshot timestamp state.history state.emitted } := by
  have startTime : schedule.finish state.emitted - manager.windowSize =
      schedule.start state.emitted := by
    rw [Schedule.start_eq_finish_sub, running.windowSize]
  have fromBuffer :
      (manager.buffer.filter fun record =>
        decide (schedule.start state.emitted ≤ timestamp record) &&
          decide (timestamp record ≤ schedule.finish state.emitted)) =
        schedule.snapshot timestamp manager.buffer state.emitted :=
    List.filter_congr fun record _ => (schedule.decide_covers _ _).symm
  have records :
      schedule.snapshot timestamp manager.buffer state.emitted =
        schedule.snapshot timestamp state.history state.emitted := by
    rw [← Schedule.snapshot_filter_start schedule timestamp manager.buffer,
      ← Schedule.snapshot_filter_start schedule timestamp state.history]
    exact congrArg (schedule.snapshot timestamp · state.emitted) running.buffer
  simp only [fill, running.nextEmitTime, startTime, fromBuffer, records]

/-! ## The simulation -/

def toEmission (window : Window Record) : Emission Record Timestamp :=
  ⟨window.startTime, window.endTime, window.records⟩

/-- What one call does, told in terms of the naive state it is related to. -/
theorem Tracks.step {windowSize stepSize : Duration}
    {manager : WindowManager Record} {state : Naive Record}
    (tracks : Tracks windowSize stepSize manager state)
    (stepNonneg : 0 ≤ stepSize) (record : Record) :
    Tracks windowSize stepSize ((machine Record).step manager record).1
        ((naive timestamp windowSize stepSize).step state record).1 ∧
      ((machine Record).step manager record).2.map toEmission =
        ((naive timestamp windowSize stepSize).step state record).2 := by
  by_cases admissible : Admissible timestamp state.history record
  · have notRejected := (tracks.rejects_eq_false_iff record).mpr admissible
    have running := tracks.push_running admissible
    by_cases due : (manager.push record).nextEmitTime ≤ timestamp record
    · rw [machine_step_of_due notRejected due]
      have naiveDue := due
      rw [running.nextEmitTime] at naiveDue
      simp only [naive, if_pos admissible, if_pos naiveDue, Option.map_some]
      refine ⟨.inr ⟨_, running.advance stepNonneg⟩, ?_⟩
      rw [running.fill_eq]
      rfl
    · rw [machine_step_of_not_due notRejected due]
      have naiveNotDue := due
      rw [running.nextEmitTime] at naiveNotDue
      simp only [naive, if_pos admissible, if_neg naiveNotDue, Option.map_none]
      exact ⟨.inr ⟨_, running⟩, trivial⟩
  · rw [machine_step_of_rejects (tracks.rejects_of_not_admissible admissible)]
    simp only [naive, if_neg admissible, Option.map_none]
    exact ⟨tracks, trivial⟩

/-- The pruning manager simulates the naive window, record by record. -/
def refinement (windowSize stepSize : Duration) (stepNonneg : 0 ≤ stepSize) :
    Machine.Simulation (machine Record) (naive timestamp windowSize stepSize) id
      (Option.map toEmission) where
  Related := Tracks windowSize stepSize
  next tracks record := (tracks.step stepNonneg record).1
  output tracks record := (tracks.step stepNonneg record).2

/-! ## Whole streams -/

section Streams

variable {stepSize : Duration}

theorem map_emittedWindows (windowSize : Duration) (stepNonneg : 0 ≤ stepSize)
    (stream : List Record) :
    (emittedWindows windowSize stepSize stream).map toEmission =
      emissions timestamp windowSize stepSize stream := by
  have sameOutputs := (refinement windowSize stepSize stepNonneg).outputs
    (.inl ⟨rfl, rfl⟩) stream
  rw [List.map_id] at sameOutputs
  rw [emittedWindows, emissions, ← sameOutputs, List.reduceOption_map]

/-- The manager after a stream stands for everything the stream made it accept
and for the number of windows it has emitted. -/
theorem tracks_afterStream (windowSize : Duration) (stepNonneg : 0 ≤ stepSize)
    (stream : List Record) :
    Tracks windowSize stepSize (afterStream windowSize stepSize stream)
      ⟨accepted timestamp stream,
        (emittedWindows windowSize stepSize stream).length⟩ := by
  have related := (refinement windowSize stepSize stepNonneg).finalState
    (.inl ⟨rfl, rfl⟩) stream
  rw [List.map_id, naive_finalState, ← map_emittedWindows windowSize stepNonneg,
    List.length_map] at related
  exact related

/-- The pruning sliding window refines the naive one. After any stream, a record
that is not older than the last accepted one makes `addRecord` return true
exactly when it reaches the end of the next window of the schedule, and the
window then holds exactly the accepted records of its closed interval, in
arrival order. Every other call returns false and leaves the caller's window
untouched, and a rejected record leaves the manager as it was. -/
theorem addRecord_refines_naive_window (windowSize stepSize : Duration)
    (stepPositive : 0 < stepSize) (before : List Record) (record : Record)
    (outWindow : Window Record) :
    let windows := emittedWindows windowSize stepSize
    let manager := afterStream windowSize stepSize before
    let history := accepted timestamp before
    let emitted : Int := (windows before).length
    let origin := timestamp (before.headD record)
    let startTime := origin + emitted * stepSize
    let endTime := origin + windowSize + emitted * stepSize
    let result := manager.addRecord record outWindow
    (Admissible timestamp history record →
      (result.emitted = true ↔ endTime ≤ timestamp record) ∧
      (result.emitted = true → result.outWindow =
        { startTime := startTime
          endTime := endTime
          records := (history ++ [record]).filter fun held =>
            decide (startTime ≤ timestamp held) &&
              decide (timestamp held ≤ endTime) })) ∧
    (¬Admissible timestamp history record →
      result.emitted = false ∧ result.manager = manager ∧
        ∀ later, windows (before ++ record :: later) = windows (before ++ later)) ∧
    (result.emitted = false → result.outWindow = outWindow) := by
  intro windows manager history emitted origin startTime endTime result
  have stepNonneg : 0 ≤ stepSize := stepPositive.le
  have tracks : Tracks windowSize stepSize manager
      ⟨history, (windows before).length⟩ :=
    tracks_afterStream windowSize stepNonneg before
  refine ⟨?_, ?_, addRecord_outWindow_of_not_emitted⟩
  · intro admissible
    have notRejected := (tracks.rejects_eq_false_iff record).mpr admissible
    have running := tracks.push_running admissible
    have schedule : scheduleOf timestamp windowSize stepSize history record =
        ⟨origin, windowSize, stepSize⟩ := by
      simp only [scheduleOf, origin, List.headD_eq_head?_getD, history,
        head?_accepted]
    rw [schedule] at running
    have nextEmitTime : (manager.push record).nextEmitTime = endTime :=
      running.nextEmitTime
    by_cases due : (manager.push record).nextEmitTime ≤ timestamp record
    · have outcome : result = _ := addRecord_of_due notRejected due outWindow
      rw [outcome, ← nextEmitTime]
      refine ⟨by simpa using due, fun _ => ?_⟩
      simp only [running.fill_eq, Schedule.snapshot, Schedule.decide_covers,
        start_eq, nextEmitTime, finish_eq, startTime, endTime]
      rfl
    · have outcome : result = _ :=
        addRecord_of_not_due notRejected due outWindow
      rw [outcome, ← nextEmitTime]
      refine ⟨by simpa using due, fun emittedTrue => ?_⟩
      cases emittedTrue
  · intro notAdmissible
    have rejected := tracks.rejects_of_not_admissible notAdmissible
    have outcome : result = _ := addRecord_of_rejects rejected outWindow
    rw [outcome]
    refine ⟨rfl, rfl, fun later => ?_⟩
    simp only [windows, emittedWindows, Machine.outputs_append,
      Machine.outputs_cons, List.reduceOption_append]
    rw [show (machine Record).finalState _ before = manager from rfl,
      machine_step_of_rejects rejected, List.reduceOption_cons_of_none]

theorem addRecord_refines_naive_window_at_five_seconds :
    let first : ParsedRecord := { timestamp := 0 }
    let second : ParsedRecord := { timestamp := milliseconds 5000 }
    ((afterStream (milliseconds 5000) (milliseconds 1000) [first]).addRecord
        second {}).outWindow =
      { startTime := 0
        endTime := milliseconds 5000
        records := [first, second] } := by
  intro first second
  have refines := addRecord_refines_naive_window (milliseconds 5000)
    (milliseconds 1000) (by decide) [first] second {}
  have filled := (refines.1 (by decide +kernel)).2 (by decide +kernel)
  exact filled.trans (by decide +kernel)

end Streams

end Prism.Windowing.WindowManager

import Prism.Windowing.Coverage

/-! # Delayed streams

The clock is steady but has no epoch. A stream in which everything happens later by the
same amount makes the manager emit the same windows, later by that amount.
-/

namespace Prism.Windowing

def delayWindow (shift : Duration) (transform : Record → Record')
    (window : Window Record) : Window Record' where
  startTime := window.startTime + shift
  endTime := window.endTime + shift
  records := window.records.map transform

namespace WindowManager

variable {Record Record' : Type} {shift : Duration} {transform : Record → Record'}

/-- The manager of a delayed stream. The times of a fresh one mean nothing yet. -/
def delay (shift : Duration) (transform : Record → Record')
    (manager : WindowManager Record) : WindowManager Record' where
  windowSize := manager.windowSize
  stepSize := manager.stepSize
  buffer := manager.buffer.map transform
  nextEmitTime :=
    if manager.initialized then manager.nextEmitTime + shift else manager.nextEmitTime
  lastTime := if manager.initialized then manager.lastTime + shift else manager.lastTime
  initialized := manager.initialized

variable [Timestamped Record] [Timestamped Record']
  (later : ∀ record, timestamp (transform record) = timestamp record + shift)

include later

theorem delay_rejects (manager : WindowManager Record) (record : Record) :
    (manager.delay shift transform).rejects (transform record) =
      manager.rejects record := by
  cases started : manager.initialized <;> simp [rejects, delay, later, started]

theorem delay_push (manager : WindowManager Record) (record : Record) :
    (manager.delay shift transform).push (transform record) =
      (manager.push record).delay shift transform := by
  cases started : manager.initialized with
  | true => simp [push, delay, later, started]
  | false => simp [push, delay, later, started, Int.add_right_comm]

variable {manager : WindowManager Record} (started : manager.initialized = true)

include started

theorem delay_fill :
    (manager.delay shift transform).fill = delayWindow shift transform manager.fill := by
  have start : manager.nextEmitTime + shift - manager.windowSize =
      manager.nextEmitTime - manager.windowSize + shift := add_sub_right_comm _ _ _
  simp only [fill, delay, delayWindow, started, later, List.filter_map, Function.comp_def,
    if_true, start, Int.add_le_add_iff_right]

theorem delay_advance :
    (manager.delay shift transform).advance = manager.advance.delay shift transform := by
  have next : manager.nextEmitTime + shift + manager.stepSize =
      manager.nextEmitTime + manager.stepSize + shift := add_right_comm _ _ _
  have oldest : manager.nextEmitTime + manager.stepSize + shift - manager.windowSize =
      manager.nextEmitTime + manager.stepSize - manager.windowSize + shift :=
    add_sub_right_comm _ _ _
  simp only [advance, delay, started, later, List.dropWhile_map, Function.comp_def,
    if_true, next, oldest, Int.add_lt_add_iff_right]

omit started

theorem delay_step (manager : WindowManager Record) (record : Record) :
    (machine Record').step (manager.delay shift transform) (transform record) =
      (((machine Record).step manager record).1.delay shift transform,
        ((machine Record).step manager record).2.map (delayWindow shift transform)) := by
  have sameRejects := delay_rejects later manager record
  have samePush := delay_push later manager record
  have running := push_initialized manager record
  cases rejected : manager.rejects record with
  | true =>
      rw [rejected] at sameRejects
      rw [machine_step_of_rejects rejected, machine_step_of_rejects sameRejects]
      rfl
  | false =>
      rw [rejected] at sameRejects
      have sameDue : ((manager.delay shift transform).push
          (transform record)).nextEmitTime ≤ timestamp (transform record) ↔
            (manager.push record).nextEmitTime ≤ timestamp record := by
        rw [samePush, later]
        simp only [delay, running, if_true, Int.add_le_add_iff_right]
      by_cases due : (manager.push record).nextEmitTime ≤ timestamp record
      · rw [machine_step_of_due rejected due,
          machine_step_of_due sameRejects (sameDue.mpr due), samePush,
          delay_fill later running, delay_advance later running]
        rfl
      · rw [machine_step_of_not_due rejected due,
          machine_step_of_not_due sameRejects (mt sameDue.mp due), samePush]
        rfl

/-- The manager sees no more of the clock than how far it has moved on. -/
def delaying : Machine.Simulation (machine Record) (machine Record') transform
    (Option.map (delayWindow shift transform)) where
  Related manager other := other = manager.delay shift transform
  next := by
    rintro manager _ rfl record
    rw [delay_step later]
  output := by
    rintro manager _ rfl record
    rw [delay_step later]

theorem map_emittedWindows_of_delay (windowSize stepSize : Duration)
    (stream : List Record) :
    (emittedWindows windowSize stepSize stream).map (delayWindow shift transform) =
      emittedWindows windowSize stepSize (stream.map transform) := by
  have related : (delaying later).Related (create windowSize stepSize)
      (create windowSize stepSize) := rfl
  have sameOutputs := (delaying later).outputs related stream
  rw [emittedWindows, emittedWindows, ← List.reduceOption_map, sameOutputs]

end WindowManager

end Prism.Windowing

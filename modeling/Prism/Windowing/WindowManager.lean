import Prism.Foundation.Machine
import Prism.Types
import Mathlib.Data.List.ReduceOption

/-! # The window manager

`WindowManager::addRecord` and the members it works on. The deque is a list
whose head is its front.
-/

namespace Prism.Windowing

structure WindowManager (Record : Type) where
  windowSize : Duration
  stepSize : Duration
  buffer : List Record := []
  nextEmitTime : Timestamp := 0
  lastTime : Timestamp := 0
  initialized : Bool := false
  deriving DecidableEq, Repr

/-- What a call of `addRecord` leaves behind: its result, the manager and the
window that was passed by reference. -/
structure AddResult (Record : Type) where
  emitted : Bool
  manager : WindowManager Record
  outWindow : Window Record
  deriving DecidableEq, Repr

namespace WindowManager

variable {Record : Type}

def create (windowSize stepSize : Duration) : WindowManager Record where
  windowSize := windowSize
  stepSize := stepSize

variable [Timestamped Record]

/-- The monotonicity test at the head of `addRecord`. -/
def rejects (manager : WindowManager Record) (record : Record) : Bool :=
  manager.initialized && decide (timestamp record < manager.lastTime)

/-- The part of `addRecord` between the monotonicity test and the emission test:
note the time, start the schedule on the first record, push to the back. -/
def push (manager : WindowManager Record) (record : Record) :
    WindowManager Record :=
  let manager := { manager with lastTime := timestamp record }
  let manager :=
    if manager.initialized then
      manager
    else
      { manager with
        nextEmitTime := timestamp record + manager.windowSize
        initialized := true }
  { manager with buffer := manager.buffer ++ [record] }

/-- The loop that fills `outWindow`. -/
def fill (manager : WindowManager Record) : Window Record :=
  let endTime := manager.nextEmitTime
  let startTime := manager.nextEmitTime - manager.windowSize
  { startTime := startTime
    endTime := endTime
    records := manager.buffer.filter fun record =>
      decide (startTime ≤ timestamp record) && decide (timestamp record ≤ endTime) }

/-- Advance the schedule by one step, then pop from the front. -/
def advance (manager : WindowManager Record) : WindowManager Record :=
  let manager :=
    { manager with nextEmitTime := manager.nextEmitTime + manager.stepSize }
  let oldestNeeded := manager.nextEmitTime - manager.windowSize
  { manager with
    buffer := manager.buffer.dropWhile fun record =>
      decide (timestamp record < oldestNeeded) }

def addRecord (manager : WindowManager Record) (record : Record)
    (outWindow : Window Record) : AddResult Record :=
  if manager.rejects record then
    ⟨false, manager, outWindow⟩
  else
    let manager := manager.push record
    if manager.nextEmitTime ≤ timestamp record then
      ⟨true, manager.advance, manager.fill⟩
    else
      ⟨false, manager, outWindow⟩

/-! ## What one call can do -/

section Cases

variable {manager : WindowManager Record} {record : Record}

theorem addRecord_of_rejects (rejected : manager.rejects record = true)
    (outWindow : Window Record) :
    manager.addRecord record outWindow = ⟨false, manager, outWindow⟩ := by
  simp [addRecord, rejected]

theorem addRecord_of_due (notRejected : manager.rejects record = false)
    (due : (manager.push record).nextEmitTime ≤ timestamp record)
    (outWindow : Window Record) :
    manager.addRecord record outWindow =
      ⟨true, (manager.push record).advance, (manager.push record).fill⟩ := by
  simp [addRecord, notRejected, due]

theorem addRecord_of_not_due (notRejected : manager.rejects record = false)
    (notDue : ¬(manager.push record).nextEmitTime ≤ timestamp record)
    (outWindow : Window Record) :
    manager.addRecord record outWindow =
      ⟨false, manager.push record, outWindow⟩ := by
  simp [addRecord, notRejected, notDue]

theorem addRecord_outWindow_of_not_emitted {outWindow : Window Record}
    (silent : (manager.addRecord record outWindow).emitted = false) :
    (manager.addRecord record outWindow).outWindow = outWindow := by
  cases rejected : manager.rejects record with
  | true => rw [addRecord_of_rejects rejected]
  | false =>
      by_cases due : (manager.push record).nextEmitTime ≤ timestamp record
      · rw [addRecord_of_due rejected due] at silent
        cases silent
      · rw [addRecord_of_not_due rejected due]

theorem addRecord_congr_outWindow (manager : WindowManager Record)
    (record : Record) (first second : Window Record) :
    let result := manager.addRecord record first
    let other := manager.addRecord record second
    result.emitted = other.emitted ∧ result.manager = other.manager ∧
      (other.emitted = true → result.outWindow = other.outWindow) := by
  cases rejected : manager.rejects record with
  | true => simp [addRecord_of_rejects rejected]
  | false =>
      by_cases due : (manager.push record).nextEmitTime ≤ timestamp record
      · simp [addRecord_of_due rejected due]
      · simp [addRecord_of_not_due rejected due]

end Cases

@[simp] theorem push_windowSize (manager : WindowManager Record) (record : Record) :
    (manager.push record).windowSize = manager.windowSize := by
  cases started : manager.initialized <;> simp [push, started]

@[simp] theorem push_stepSize (manager : WindowManager Record) (record : Record) :
    (manager.push record).stepSize = manager.stepSize := by
  cases started : manager.initialized <;> simp [push, started]

@[simp] theorem push_lastTime (manager : WindowManager Record) (record : Record) :
    (manager.push record).lastTime = timestamp record := by
  cases started : manager.initialized <;> simp [push, started]

@[simp] theorem push_initialized (manager : WindowManager Record) (record : Record) :
    (manager.push record).initialized = true := by
  cases started : manager.initialized <;> simp [push, started]

@[simp] theorem push_buffer (manager : WindowManager Record) (record : Record) :
    (manager.push record).buffer = manager.buffer ++ [record] := by
  cases started : manager.initialized <;> simp [push, started]

theorem push_nextEmitTime_of_initialized {manager : WindowManager Record}
    (running : manager.initialized = true) (record : Record) :
    (manager.push record).nextEmitTime = manager.nextEmitTime := by
  simp [push, running]

theorem push_nextEmitTime_of_fresh {manager : WindowManager Record}
    (fresh : manager.initialized = false) (record : Record) :
    (manager.push record).nextEmitTime =
      timestamp record + manager.windowSize := by
  simp [push, fresh]

@[simp] theorem advance_nextEmitTime (manager : WindowManager Record) :
    manager.advance.nextEmitTime = manager.nextEmitTime + manager.stepSize := rfl

@[simp] theorem fill_endTime (manager : WindowManager Record) :
    manager.fill.endTime = manager.nextEmitTime := rfl

/-! ## Streams -/

def machine (Record : Type) [Timestamped Record] :
    Machine (WindowManager Record) Record (Option (Window Record)) where
  step manager record :=
    let result := manager.addRecord record {}
    (result.manager, if result.emitted then some result.outWindow else none)

section Steps

variable {manager : WindowManager Record} {record : Record}

theorem machine_step_of_rejects (rejected : manager.rejects record = true) :
    (machine Record).step manager record = (manager, none) := by
  simp [machine, addRecord_of_rejects rejected]

theorem machine_step_of_due (notRejected : manager.rejects record = false)
    (due : (manager.push record).nextEmitTime ≤ timestamp record) :
    (machine Record).step manager record =
      ((manager.push record).advance, some (manager.push record).fill) := by
  simp [machine, addRecord_of_due notRejected due]

theorem machine_step_of_not_due (notRejected : manager.rejects record = false)
    (notDue : ¬(manager.push record).nextEmitTime ≤ timestamp record) :
    (machine Record).step manager record = (manager.push record, none) := by
  simp [machine, addRecord_of_not_due notRejected notDue]

end Steps

def afterStream (windowSize stepSize : Duration) (stream : List Record) :
    WindowManager Record :=
  (machine Record).finalState (create windowSize stepSize) stream

def emittedWindows (windowSize stepSize : Duration) (stream : List Record) :
    List (Window Record) :=
  ((machine Record).outputs (create windowSize stepSize) stream).reduceOption

end WindowManager

end Prism.Windowing

import Prism.Windowing.Refinement

/-! # What the manager keeps in memory

The buffer holds what the next window can still need and nothing else. So it is no larger
than the traffic of one window and of the time by which the schedule is behind.
-/

namespace Prism.Windowing.WindowManager

open SlidingWindow

variable {Record : Type} [Timestamped Record]

/-! ## Steps -/

/-- Nothing in the buffer is too old for the next window, and neither is a record that may
still be accepted. -/
structure Trimmed (manager : WindowManager Record) : Prop where
  stepLeWindow : manager.stepSize ≤ manager.windowSize
  fresh : manager.initialized = false → manager.buffer = []
  inOrder : InOrder timestamp manager.buffer
  past : ∀ record ∈ manager.buffer, timestamp record ≤ manager.lastTime
  start : manager.initialized = true →
    manager.nextEmitTime - manager.windowSize ≤ manager.lastTime
  young : ∀ record ∈ manager.buffer,
    manager.nextEmitTime - manager.windowSize ≤ timestamp record

theorem trimmed_create {windowSize stepSize : Duration}
    (stepLeWindow : stepSize ≤ windowSize) :
    (create windowSize stepSize : WindowManager Record).Trimmed where
  stepLeWindow := stepLeWindow
  fresh _ := rfl
  inOrder := .nil
  past _ member := nomatch member
  start started := nomatch started
  young _ member := nomatch member

variable {manager : WindowManager Record} {record : Record}

theorem Trimmed.push (trimmed : manager.Trimmed)
    (notRejected : manager.rejects record = false) : (manager.push record).Trimmed := by
  cases started : manager.initialized with
  | true =>
      have notOlder : manager.lastTime ≤ timestamp record := by
        simpa [rejects, started] using notRejected
      have running := push_nextEmitTime_of_initialized started record
      have later : ∀ earlier ∈ manager.buffer, timestamp earlier ≤ timestamp record :=
        fun earlier member => (trimmed.past earlier member).trans notOlder
      have notTooOld := (trimmed.start started).trans notOlder
      refine
        { stepLeWindow := by simpa using trimmed.stepLeWindow
          fresh := by simp
          inOrder := ?_
          past := ?_
          start := ?_
          young := ?_ }
      · rw [push_buffer]
        refine List.pairwise_append.mpr
          ⟨trimmed.inOrder, List.pairwise_singleton _ _, ?_⟩
        intro earlier member last isRecord
        rw [List.mem_singleton.mp isRecord]
        exact later earlier member
      · rw [push_buffer, push_lastTime]
        intro earlier member
        rcases List.mem_append.mp member with before | isRecord
        · exact later earlier before
        · exact (congrArg timestamp (List.mem_singleton.mp isRecord)).le
      · intro _
        rw [running, push_windowSize, push_lastTime]
        exact notTooOld
      · rw [push_buffer, running, push_windowSize]
        intro earlier member
        rcases List.mem_append.mp member with before | isRecord
        · exact trimmed.young earlier before
        · rw [List.mem_singleton.mp isRecord]
          exact notTooOld
  | false =>
      have empty := trimmed.fresh started
      have starts := push_nextEmitTime_of_fresh started record
      have windowStart : (manager.push record).nextEmitTime -
          (manager.push record).windowSize = timestamp record := by
        rw [starts, push_windowSize, add_sub_cancel_right]
      refine
        { stepLeWindow := by simpa using trimmed.stepLeWindow
          fresh := by simp
          inOrder := ?_
          past := ?_
          start := ?_
          young := ?_ }
      · rw [push_buffer, empty]
        exact List.pairwise_singleton _ _
      · rw [push_buffer, push_lastTime, empty]
        intro earlier member
        exact (congrArg timestamp (List.mem_singleton.mp member)).le
      · intro _
        rw [windowStart, push_lastTime]
      · rw [push_buffer, windowStart, empty]
        intro earlier member
        exact (congrArg timestamp (List.mem_singleton.mp member)).ge

theorem Trimmed.advance (trimmed : manager.Trimmed)
    (started : manager.initialized = true)
    (due : manager.nextEmitTime ≤ manager.lastTime) : manager.advance.Trimmed := by
  have dropped : manager.advance.buffer = manager.buffer.filter fun record =>
      decide (manager.advance.nextEmitTime - manager.windowSize ≤ timestamp record) :=
    dropWhile_eq_filter trimmed.inOrder _
  refine
    { stepLeWindow := trimmed.stepLeWindow
      fresh := fun notStarted => absurd (started.symm.trans notStarted) (by decide)
      inOrder := ?_
      past := ?_
      start := ?_
      young := ?_ }
  · rw [dropped]
    exact trimmed.inOrder.filter _
  · rw [dropped]
    intro record member
    exact trimmed.past record (List.mem_of_mem_filter member)
  · intro _
    change manager.nextEmitTime + manager.stepSize - manager.windowSize ≤ manager.lastTime
    have shorter := sub_nonpos.mpr trimmed.stepLeWindow
    rw [add_sub_assoc]
    exact (add_le_of_nonpos_right shorter).trans due
  · rw [dropped]
    intro record member
    exact of_decide_eq_true (List.mem_filter.mp member).2

theorem Trimmed.step (trimmed : manager.Trimmed) (record : Record) :
    ((machine Record).step manager record).1.Trimmed := by
  cases rejected : manager.rejects record with
  | true =>
      rw [machine_step_of_rejects rejected]
      exact trimmed
  | false =>
      have pushed := trimmed.push rejected
      by_cases due : (manager.push record).nextEmitTime ≤ timestamp record
      · rw [machine_step_of_due rejected due]
        apply pushed.advance (push_initialized manager record)
        rw [push_lastTime]
        exact due
      · rw [machine_step_of_not_due rejected due]
        exact pushed

/-! ## Streams -/

/-- After any stream the buffer holds exactly the accepted records that are not too old
for the next window. If the schedule is at most `bound` windows behind, these are among
the records of the last window and `bound` steps more. -/
theorem buffer_holds_next_window (windowSize stepSize : Duration)
    (stepNonneg : 0 ≤ stepSize) (stepLeWindow : stepSize ≤ windowSize)
    (stream : List Record) :
    let manager := afterStream windowSize stepSize stream
    let history := accepted timestamp stream
    manager.buffer = history.filter (fun record =>
        decide (manager.nextEmitTime - windowSize ≤ timestamp record)) ∧
      ∀ (bound : Nat), ∀ last ∈ history.getLast?,
        timestamp last < manager.nextEmitTime + bound * stepSize →
        manager.buffer.length ≤ history.countP fun record =>
          decide (timestamp last - windowSize - bound * stepSize < timestamp record) := by
  intro manager history
  have trimmed : manager.Trimmed :=
    (machine Record).finalState_invariant (fun _ record trimmed => trimmed.step record)
      (trimmed_create stepLeWindow) stream
  have isBuffer : manager.buffer = history.filter fun record =>
      decide (manager.nextEmitTime - windowSize ≤ timestamp record) := by
    rcases tracks_afterStream windowSize stepNonneg stream with
      ⟨isFresh, noHistory⟩ | ⟨origin, running⟩
    · have empty : history = [] := congrArg Naive.history noHistory
      have noBuffer : manager.buffer = [] := congrArg WindowManager.buffer isFresh
      rw [noBuffer, empty]
      rfl
    · let schedule : Schedule Timestamp := ⟨origin, windowSize, stepSize⟩
      let emitted := (emittedWindows windowSize stepSize stream).length
      have start : schedule.start emitted = manager.nextEmitTime - windowSize := by
        rw [show manager.nextEmitTime = _ from running.nextEmitTime,
          Schedule.start_eq_finish_sub]
      have kept : since schedule emitted manager.buffer = manager.buffer := by
        apply List.filter_eq_self.mpr
        intro record member
        have young := trimmed.young record member
        rw [show manager.windowSize = windowSize from running.windowSize, ← start] at young
        exact decide_eq_true young
      rw [← kept, ← start]
      exact running.buffer
  refine ⟨isBuffer, ?_⟩
  intro bound last isLast behind
  rw [isBuffer, ← List.countP_eq_length_filter]
  apply List.countP_mono_left
  intro record _ young
  have youngEnough := of_decide_eq_true young
  apply decide_eq_true
  have limit : timestamp last - windowSize - bound * stepSize <
      manager.nextEmitTime - windowSize := by
    rw [sub_right_comm]
    exact sub_lt_sub_right (sub_lt_iff_lt_add.mpr behind) _
  exact limit.trans_le youngEnough

/-- After a pause the manager has fallen behind, and keeps what the overdue windows
need. -/
theorem buffer_holds_next_window_after_pause :
    let stream : List ParsedRecord :=
      [{ timestamp := 0 }, { timestamp := milliseconds 2000 },
        { timestamp := milliseconds 9000 }]
    (afterStream (milliseconds 5000) (milliseconds 1000) stream).buffer =
      (accepted timestamp stream).filter fun record =>
        decide (milliseconds 1000 ≤ timestamp record) := by
  intro stream
  have next : (afterStream (milliseconds 5000) (milliseconds 1000)
      stream).nextEmitTime - milliseconds 5000 = milliseconds 1000 := by decide +kernel
  have holds := (buffer_holds_next_window (milliseconds 5000) (milliseconds 1000)
    (by decide) (by decide) stream).1
  rw [next] at holds
  exact holds

end Prism.Windowing.WindowManager

import Prism.Foundation.Lag
import Prism.Windowing.Coverage

/-! # How many windows a stream gets

One call of `addRecord` emits at most one window, so a manager that has fallen
behind catches up one window per record. How far it is behind depends on the
accepted timestamps alone.
-/

namespace Prism.Windowing.WindowManager

open SlidingWindow

variable {Record : Type} [Timestamped Record]

theorem length_emittedWindows (windowSize : Duration) {stepSize : Duration}
    (stepNonneg : 0 ≤ stepSize) (stream : List Record) :
    (emittedWindows windowSize stepSize stream).length =
      (windows timestamp ⟨firstTime stream, windowSize, stepSize⟩ stream).length := by
  rw [windows, ← map_emittedWindows windowSize stepNonneg, List.length_map]

theorem lt_length_emittedWindows {windowSize stepSize : Duration}
    (stepPositive : 0 < stepSize) {stream : List Record} (nonempty : stream ≠ [])
    {time : Timestamp} {index bound : Nat}
    (behind : time <
      (afterStream windowSize stepSize stream).nextEmitTime + bound * stepSize)
    (passed : firstTime stream + windowSize + index * stepSize + bound * stepSize ≤
      time) :
    index < (emittedWindows windowSize stepSize stream).length := by
  rw [nextEmitTime_afterStream stepPositive.le (startsAt_firstTime stream) nonempty,
    finish_eq, ← length_emittedWindows windowSize stepPositive.le] at behind
  have before := passed.trans_lt behind
  rw [Int.add_lt_add_iff_right, Int.add_lt_add_iff_left] at before
  exact Int.ofNat_lt.mp (Int.lt_of_mul_lt_mul_right before stepPositive.le)

theorem mem_stream_of_mem_window {windowSize stepSize : Duration}
    (stepNonneg : 0 ≤ stepSize) {stream : List Record} {window : Window Record}
    (isWindow : window ∈ emittedWindows windowSize stepSize stream) {record : Record}
    (member : record ∈ window.records) : record ∈ stream := by
  rcases List.mem_iff_getElem?.mp isWindow with ⟨index, atIndex⟩
  have filled := wellFilled_of_getElem? (startsAt_firstTime stream)
    (getElem?_windows stepNonneg atIndex)
  exact (filled.sublist.trans (accepted_sublist _ stream)).subset member

theorem first_window_emitted {windowSize stepSize : Duration}
    (windowPositive : 0 < windowSize) (stepNonneg : 0 ≤ stepSize)
    {stream : List Record} {first record : Record} (isFirst : first ∈ stream.head?)
    (member : record ∈ stream) (late : timestamp first + windowSize ≤ timestamp record) :
    ∃ window ∈ emittedWindows windowSize stepSize stream, first ∈ window.records := by
  let schedule : Schedule Timestamp := ⟨firstTime stream, windowSize, stepSize⟩
  have starts := startsAt_firstTime stream
  have origin : firstTime stream = timestamp first := (starts first isFirst).symm
  have firstStart : schedule.start 0 = timestamp first := by
    rw [Schedule.start_zero]
    exact origin
  have firstEnd : schedule.finish 0 = timestamp first + windowSize := by
    rw [Schedule.finish_eq_start_add, firstStart]
  have notLatest : ∃ last ∈ accepted timestamp stream,
      timestamp record ≤ timestamp last := exists_accepted_ge member
  rcases notLatest with ⟨last, isAccepted, notBefore⟩
  have reach : ReachEnds timestamp schedule ([] ++ [last]) :=
    reachEnds_concat_iff.mpr
      ⟨reachEnds_nil, firstEnd.le.trans (late.trans notBefore)⟩
  have emitted : 0 < (emittedWindows windowSize stepSize stream).length := by
    rw [length_emittedWindows windowSize stepNonneg]
    exact length_le_of_paired starts (List.singleton_sublist.mpr isAccepted) reach
  have atIndex := getElem?_windows stepNonneg (List.getElem?_eq_getElem emitted)
  have filled := wellFilled_of_getElem? starts atIndex
  refine ⟨_, List.getElem_mem emitted, ?_⟩
  apply filled.complete first
  · apply List.mem_of_mem_head?
    rw [head?_accepted]
    exact isFirst
  · exact firstStart.le
  · rw [firstEnd]
    exact lt_add_of_pos_right _ windowPositive

/-- A manager emits as many windows as any choice of the accepted records could
trigger: the most for which distinct records, in arrival order, each reach the
end of their window. -/
theorem emits_all_reachable_windows (windowSize stepSize : Duration)
    (stepNonneg : 0 ≤ stepSize) (stream : List Record) :
    IsGreatest
      { count | ∃ chosen : List Record, chosen.Sublist (accepted timestamp stream) ∧
        chosen.length = count ∧
        ∀ (index : Nat) record, chosen[index]? = some record →
          firstTime stream + windowSize + index * stepSize ≤ timestamp record }
      (emittedWindows windowSize stepSize stream).length := by
  let schedule : Schedule Timestamp := ⟨firstTime stream, windowSize, stepSize⟩
  have greatest : IsGreatest _ (windows timestamp schedule stream).length :=
    isGreatest_length_windows (startsAt_firstTime stream)
  rw [← length_emittedWindows windowSize stepNonneg] at greatest
  simpa only [ReachEnds, finish_eq] using greatest

theorem emits_all_reachable_windows_after_pause :
    let stream : List ParsedRecord :=
      [{ timestamp := 0 }, { timestamp := milliseconds 9000 }]
    (emittedWindows (milliseconds 5000) (milliseconds 1000) stream).length ∈
      upperBounds { count | ∃ chosen : List ParsedRecord,
        chosen.Sublist (accepted timestamp stream) ∧ chosen.length = count ∧
        ∀ (index : Nat) record, chosen[index]? = some record →
          firstTime stream + milliseconds 5000 + index * milliseconds 1000 ≤
            timestamp record } := by
  intro stream
  exact (emits_all_reachable_windows (milliseconds 5000) (milliseconds 1000)
    (by decide) stream).2

/-- After any stream, at most `bound` windows are overdue exactly when the
accepted timestamps have nowhere run ahead: between no accepted record and the
last one have more window ends passed than records came, plus `bound`. -/
theorem overdue_windows_le_iff (windowSize stepSize : Duration)
    (windowPositive : 0 < windowSize) (stepPositive : 0 < stepSize)
    (stream : List Record) (bound : Nat) :
    let windowEnd (index : Nat) : Timestamp :=
      firstTime stream + windowSize + index * stepSize
    let history := accepted timestamp stream
    (∀ last ∈ history.getLast?, timestamp last <
        (afterStream windowSize stepSize stream).nextEmitTime + bound * stepSize) ↔
      ¬∃ gap index earlier last, history.reverse[gap]? = some earlier ∧
        history.getLast? = some last ∧ timestamp earlier < windowEnd index ∧
        windowEnd (index + gap + bound) ≤ timestamp last := by
  intro windowEnd history
  let schedule : Schedule Timestamp := ⟨firstTime stream, windowSize, stepSize⟩
  have starts := startsAt_firstTime stream
  have lags : LagsAtMost timestamp schedule bound stream ↔ _ :=
    lagsAtMost_iff starts windowPositive stepPositive
  have nextEnd : stream ≠ [] →
      (afterStream windowSize stepSize stream).nextEmitTime + bound * stepSize =
        schedule.finish ((windows timestamp schedule stream).length + bound) := by
    intro nonempty
    rw [nextEmitTime_afterStream stepPositive.le starts nonempty, finish_eq,
      finish_eq, Int.natCast_add, Int.add_mul, Int.add_assoc]
  simp only [Outruns, schedule, finish_eq] at lags
  rw [← lags]
  refine forall_congr' fun last => forall_congr' fun isLast => ?_
  rw [nextEnd]
  intro empty
  subst empty
  cases isLast

theorem overdue_windows_le_iff_after_pause :
    let stream : List ParsedRecord :=
      [{ timestamp := 0 }, { timestamp := milliseconds 9000 }]
    ∀ last ∈ (accepted timestamp stream).getLast?, timestamp last <
      (afterStream (milliseconds 5000) (milliseconds 1000) stream).nextEmitTime +
        (4 : Nat) * milliseconds 1000 := by
  intro stream
  refine (overdue_windows_le_iff (milliseconds 5000) (milliseconds 1000)
    (by decide) (by decide) stream 4).mpr ?_
  intro outruns
  rcases outruns with ⟨gap, index, earlier, last, isEarlier, isLast, before, passed⟩
  rw [show accepted timestamp stream = stream by decide +kernel] at isEarlier isLast
  rw [← Option.some.inj isLast] at passed
  have reached : (5000000000 : Int) + ((index : Int) + gap + 4) * 1000000000 ≤
      9000000000 := by
    simpa [firstTime, timestamp, milliseconds, stream] using passed
  cases gap with
  | zero =>
      rw [← Option.some.inj isEarlier] at before
      have missed : (9000000000 : Int) < 5000000000 + (index : Int) * 1000000000 := by
        simpa [firstTime, timestamp, milliseconds, stream] using before
      omega
  | succ gap => omega

end Prism.Windowing.WindowManager

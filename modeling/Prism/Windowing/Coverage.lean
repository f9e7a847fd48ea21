import Prism.Windowing.Pace

/-! # Every accepted record is scored

Equal records cannot be told apart in a window, so the results are stated on
streams whose records carry their position of arrival. Numbering the records
does not change what the manager does.
-/

namespace Prism.Windowing

open SlidingWindow

def mapWindow (transform : Record → Record') (window : Window Record) :
    Window Record' where
  startTime := window.startTime
  endTime := window.endTime
  records := window.records.map transform

namespace WindowManager

section Naturality

variable {Record Record' : Type}

def map (transform : Record → Record') (manager : WindowManager Record) :
    WindowManager Record' where
  windowSize := manager.windowSize
  stepSize := manager.stepSize
  buffer := manager.buffer.map transform
  nextEmitTime := manager.nextEmitTime
  lastTime := manager.lastTime
  initialized := manager.initialized

variable [Timestamped Record] [Timestamped Record'] {transform : Record → Record'}

theorem map_rejects
    (sameTime : ∀ record, timestamp (transform record) = timestamp record)
    (manager : WindowManager Record) (record : Record) :
    (manager.map transform).rejects (transform record) = manager.rejects record := by
  simp [rejects, map, sameTime]

theorem map_push (sameTime : ∀ record, timestamp (transform record) = timestamp record)
    (manager : WindowManager Record) (record : Record) :
    (manager.map transform).push (transform record) =
      (manager.push record).map transform := by
  cases started : manager.initialized <;> simp [push, map, sameTime, started]

theorem map_fill (sameTime : ∀ record, timestamp (transform record) = timestamp record)
    (manager : WindowManager Record) :
    (manager.map transform).fill = mapWindow transform manager.fill := by
  simp [fill, map, mapWindow, List.filter_map, Function.comp_def, sameTime]

theorem map_advance
    (sameTime : ∀ record, timestamp (transform record) = timestamp record)
    (manager : WindowManager Record) :
    (manager.map transform).advance = manager.advance.map transform := by
  simp [advance, map, List.dropWhile_map, Function.comp_def, sameTime]

theorem map_step (sameTime : ∀ record, timestamp (transform record) = timestamp record)
    (manager : WindowManager Record) (record : Record) :
    (machine Record').step (manager.map transform) (transform record) =
      (((machine Record).step manager record).1.map transform,
        ((machine Record).step manager record).2.map (mapWindow transform)) := by
  have sameRejects := map_rejects sameTime manager record
  have samePush := map_push sameTime manager record
  cases rejected : manager.rejects record with
  | true =>
      rw [rejected] at sameRejects
      rw [machine_step_of_rejects rejected, machine_step_of_rejects sameRejects]
      rfl
  | false =>
      rw [rejected] at sameRejects
      by_cases due : (manager.push record).nextEmitTime ≤ timestamp record
      · have sameDue : ((manager.map transform).push (transform record)).nextEmitTime ≤
            timestamp (transform record) := by
          rw [samePush, sameTime]
          exact due
        rw [machine_step_of_due rejected due, machine_step_of_due sameRejects sameDue,
          samePush, map_fill sameTime, map_advance sameTime]
        rfl
      · have sameNotDue :
            ¬((manager.map transform).push (transform record)).nextEmitTime ≤
              timestamp (transform record) := by
          rw [samePush, sameTime]
          exact due
        rw [machine_step_of_not_due rejected due,
          machine_step_of_not_due sameRejects sameNotDue, samePush]
        rfl

/-- The manager never looks at more than the timestamps. -/
def relabelling (sameTime : ∀ record, timestamp (transform record) = timestamp record) :
    Machine.Simulation (machine Record) (machine Record') transform
      (Option.map (mapWindow transform)) where
  Related manager other := other = manager.map transform
  next := by
    rintro manager _ rfl record
    rw [map_step sameTime]
  output := by
    rintro manager _ rfl record
    rw [map_step sameTime]

theorem map_emittedWindows_of_sameTime (transform : Record → Record')
    (sameTime : ∀ record, timestamp (transform record) = timestamp record)
    (windowSize stepSize : Duration) (stream : List Record) :
    (emittedWindows windowSize stepSize stream).map (mapWindow transform) =
      emittedWindows windowSize stepSize (stream.map transform) := by
  have related : (relabelling sameTime).Related (create windowSize stepSize)
      (create windowSize stepSize) := rfl
  have sameOutputs := (relabelling sameTime).outputs related stream
  rw [emittedWindows, emittedWindows, ← List.reduceOption_map, sameOutputs]

end Naturality

/-! ## Streams of distinct records -/

section Distinct

variable {Record : Type} [Timestamped Record] {windowSize stepSize : Duration}
  {stream : List Record}

theorem getElem?_windows (stepNonneg : 0 ≤ stepSize) {index : Nat}
    {window : Window Record}
    (isWindow : (emittedWindows windowSize stepSize stream)[index]? = some window) :
    (windows timestamp ⟨firstTime stream, windowSize, stepSize⟩ stream)[index]? =
      some (toEmission window) := by
  rw [windows, ← map_emittedWindows windowSize stepNonneg, List.getElem?_map, isWindow]
  rfl

theorem timestamp_sub_le (stepNonneg : 0 ≤ stepSize) {window : Window Record}
    (isWindow : window ∈ emittedWindows windowSize stepSize stream)
    {first last : Record} (isFirst : first ∈ window.records)
    (isLast : last ∈ window.records) :
    timestamp last - timestamp first ≤ windowSize := by
  rcases List.mem_iff_getElem?.mp isWindow with ⟨index, atIndex⟩
  have filled := wellFilled_of_getElem? (startsAt_firstTime stream)
    (getElem?_windows stepNonneg atIndex)
  have started := (filled.covered first isFirst).1
  have ended := (filled.covered last isLast).2
  rw [Schedule.finish_eq_start_add] at ended
  exact sub_le_iff_le_add'.mpr (ended.trans (add_le_add_left started _))

theorem exists_window_of_lt_endTime (stepNonneg : 0 ≤ stepSize)
    (stepLeWindow : stepSize ≤ windowSize) {lastWindow : Window Record}
    (isLast : lastWindow ∈ (emittedWindows windowSize stepSize stream).getLast?)
    {record : Record} (member : record ∈ accepted timestamp stream)
    (passed : timestamp record < lastWindow.endTime) :
    ∃ window ∈ emittedWindows windowSize stepSize stream,
      record ∈ window.records := by
  rw [List.getLast?_eq_getElem?] at isLast
  have held := exists_window_of_lt_finish (startsAt_firstTime stream)
    stepLeWindow member (getElem?_windows stepNonneg isLast) passed
  rcases held with ⟨emitted, isEmitted, inRecords⟩
  rw [windows, ← map_emittedWindows windowSize stepNonneg] at isEmitted
  rcases List.mem_map.mp isEmitted with ⟨window, isWindow, equal⟩
  subst equal
  exact ⟨window, isWindow, inRecords⟩

variable [BEq Record] [LawfulBEq Record]

theorem count_records_le_one (stepNonneg : 0 ≤ stepSize) (distinct : stream.Nodup)
    {window : Window Record}
    (isWindow : window ∈ emittedWindows windowSize stepSize stream)
    (record : Record) :
    window.records.count record ≤ 1 := by
  rcases List.mem_iff_getElem?.mp isWindow with ⟨index, atIndex⟩
  have emitted := List.mem_of_getElem? (getElem?_windows stepNonneg atIndex)
  exact count_le_one_of_mem (startsAt_firstTime stream) distinct emitted record

theorem countP_windows_le (stepPositive : 0 < stepSize)
    (windowNonneg : 0 ≤ windowSize) (record : Record) :
    (((emittedWindows windowSize stepSize stream).countP fun window =>
        decide (record ∈ window.records) : Nat) : Int) ≤
      windowSize / stepSize + 1 := by
  have quotientNonneg : 0 ≤ windowSize / stepSize :=
    Int.ediv_nonneg windowNonneg stepPositive.le
  have bounded :
      ((emittedWindows windowSize stepSize stream).countP fun window =>
        decide (record ∈ window.records)) ≤ (windowSize / stepSize).toNat + 1 := by
    apply countP_le_of_close
    intro first gap earlier later isEarlier isLater inEarlier inLater
    have span := nsmul_step_le_size_of_mem (startsAt_firstTime stream)
      (getElem?_windows stepPositive.le isEarlier)
      (getElem?_windows stepPositive.le isLater)
      (of_decide_eq_true inEarlier) (of_decide_eq_true inLater)
    have gapLe : (gap : Int) ≤ windowSize / stepSize :=
      (Int.le_ediv_iff_mul_le stepPositive).mpr span
    exact Int.le_toNat quotientNonneg |>.mpr gapLe
  calc
    _ ≤ (((windowSize / stepSize).toNat + 1 : Nat) : Int) :=
      Int.ofNat_le.mpr bounded
    _ = windowSize / stepSize + 1 := by
      rw [Int.natCast_add, Int.toNat_of_nonneg quotientNonneg]
      rfl

end Distinct

/-! ## Streams numbered by arrival -/

theorem nodup_zipIdx (stream : List Record) : stream.zipIdx.Nodup := by
  apply List.Nodup.of_map Prod.snd
  rw [List.zipIdx_map_snd]
  exact List.nodup_range'

/-- No accepted record escapes scoring. Once a window has been emitted, each
accepted record strictly before its end, told apart by its position of arrival,
is in at least one emitted window, at most once in each, and in at most
`windowSize / stepSize + 1` of them. -/
theorem accepted_records_are_scored (windowSize stepSize : Duration)
    (stepPositive : 0 < stepSize) (stepLeWindow : stepSize ≤ windowSize)
    (stream : List ParsedRecord) :
    let numbered := stream.zipIdx
    let windows := emittedWindows windowSize stepSize numbered
    windows.map (mapWindow Prod.fst) = emittedWindows windowSize stepSize stream ∧
    (accepted timestamp numbered).map Prod.fst = accepted timestamp stream ∧
    ∀ lastWindow ∈ windows.getLast?, ∀ record ∈ accepted timestamp numbered,
      timestamp record < lastWindow.endTime →
      (∃ window ∈ windows, record ∈ window.records) ∧
      (∀ window ∈ windows, window.records.count record ≤ 1) ∧
      ((windows.countP fun window => decide (record ∈ window.records) : Nat) : Int) ≤
        windowSize / stepSize + 1 := by
  intro numbered windows
  have unnumbered : numbered.map Prod.fst = stream := List.zipIdx_map_fst 0 stream
  refine ⟨?_, ?_, ?_⟩
  · rw [← unnumbered]
    exact map_emittedWindows_of_sameTime Prod.fst (fun _ => rfl) _ _ numbered
  · have sameAccepted : accepted timestamp (numbered.map Prod.fst) =
        (accepted timestamp numbered).map Prod.fst :=
      map_accepted Prod.fst (fun _ => rfl) numbered
    rw [← sameAccepted, unnumbered]
  · intro lastWindow isLast record member passed
    refine ⟨?_, ?_, ?_⟩
    · exact exists_window_of_lt_endTime stepPositive.le stepLeWindow isLast member
        passed
    · intro window isWindow
      exact count_records_le_one stepPositive.le (nodup_zipIdx stream) isWindow
        record
    · exact countP_windows_le stepPositive (stepPositive.le.trans stepLeWindow)
        record

/-- Equal records that arrive on the end of a window: the one that triggers it
and one that comes after it. Both are scored. -/
theorem accepted_records_are_scored_at_a_tie :
    let tie : ParsedRecord := { timestamp := milliseconds 5000 }
    let stream : List ParsedRecord :=
      [{ timestamp := 0 }, tie, tie, { timestamp := milliseconds 6000 }]
    ∃ window ∈ emittedWindows (milliseconds 5000) (milliseconds 1000) stream.zipIdx,
      (tie, 2) ∈ window.records := by
  intro tie stream
  have scored := (accepted_records_are_scored (milliseconds 5000)
    (milliseconds 1000) (by decide) (by decide) stream).2.2
  have isLast : (emittedWindows (milliseconds 5000) (milliseconds 1000)
      stream.zipIdx).getLast? =
        some
          { startTime := milliseconds 1000
            endTime := milliseconds 6000
            records :=
              [(tie, 1), (tie, 2), ({ timestamp := milliseconds 6000 }, 3)] } := by
    decide +kernel
  exact (scored _ isLast (tie, 2) (by decide +kernel) (by decide +kernel)).1

end WindowManager

end Prism.Windowing

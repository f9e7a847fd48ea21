import Mathlib.Algebra.Group.Nat.Defs
import Prism.Foundation.CompleteWindows
import Prism.Windowing.Coverage

/-! # When the windows are complete

The interval of a window is closed, but the window is emitted by the first record
that reaches its end. A record with the same timestamp that arrives later is
accepted and missing.
-/

namespace Prism.Windowing.WindowManager

open SlidingWindow

variable {Record : Type} [Timestamped Record] {windowSize stepSize : Duration}

/-! ## Complete windows -/

/-- Each emitted window holds the records that the run accepts in its closed
interval, before its emission or after, as often as they arrived. -/
def CompleteWindows (windowSize stepSize : Duration) (stream : List Record) : Prop :=
  ∀ window ∈ emittedWindows windowSize stepSize stream,
    window.records = (accepted timestamp stream).filter fun record =>
      decide (window.startTime ≤ timestamp record) &&
        decide (timestamp record ≤ window.endTime)

/-- The record lies on the end of the last window the manager has emitted, if it
has emitted one since its first record, at `origin`. -/
def ArrivesAtEnd (origin : Timestamp) (manager : WindowManager Record)
    (record : Record) : Prop :=
  origin + manager.windowSize < manager.nextEmitTime ∧
    timestamp record + manager.stepSize = manager.nextEmitTime

instance (origin : Timestamp) (manager : WindowManager Record) (record : Record) :
    Decidable (ArrivesAtEnd origin manager record) :=
  inferInstanceAs (Decidable (_ ∧ _))

theorem completeWindows_iff (stepNonneg : 0 ≤ stepSize) (stream : List Record) :
    CompleteWindows windowSize stepSize stream ↔
      Complete timestamp ⟨firstTime stream, windowSize, stepSize⟩ stream := by
  rw [Complete, windows, ← map_emittedWindows windowSize stepNonneg,
    List.forall_mem_map]
  rfl

theorem windowSize_afterStream (stepNonneg : 0 ≤ stepSize) (stream : List Record) :
    (afterStream windowSize stepSize stream).windowSize = windowSize := by
  rcases tracks_afterStream windowSize stepNonneg stream with
    ⟨fresh, _⟩ | ⟨_, running⟩
  · rw [fresh]
    rfl
  · exact running.windowSize

theorem forall_finish_ne_iff_not_arrivesAtEnd (stepPositive : 0 < stepSize)
    (stepLeWindow : stepSize ≤ windowSize) {origin : Timestamp} {before : List Record}
    {record : Record} (starts : StartsAt timestamp origin (before ++ [record]))
    (admissible : Admissible timestamp (accepted timestamp before) record) :
    (∀ window ∈ windows timestamp ⟨origin, windowSize, stepSize⟩ before,
        window.finish ≠ timestamp record) ↔
      ¬ArrivesAtEnd origin (afterStream windowSize stepSize before) record := by
  by_cases fresh : before = []
  · subst fresh
    have isOrigin : timestamp record = origin := starts record rfl
    refine iff_of_true (fun window member => nomatch member) ?_
    rintro ⟨emitted, atEnd⟩
    have tooEarly : windowSize < stepSize := by
      rw [isOrigin] at atEnd
      rw [← atEnd] at emitted
      exact lt_of_add_lt_add_left emitted
    exact absurd tooEarly (not_lt.mpr stepLeWindow)
  · rw [forall_finish_ne_iff starts.of_concat stepPositive admissible, ArrivesAtEnd,
      windowSize_afterStream stepPositive.le, stepSize_afterStream stepPositive.le,
      nextEmitTime_afterStream stepPositive.le starts.of_concat fresh]
    rcases (windows timestamp ⟨origin, windowSize, stepSize⟩ before).length with
      _ | last
    · simp [Schedule.finish]
    · have emitted : origin + windowSize <
          Schedule.finish ⟨origin, windowSize, stepSize⟩ last + stepSize := by
        refine lt_add_of_le_of_pos ?_ stepPositive
        exact le_add_of_nonneg_right (nsmul_nonneg stepPositive.le last)
      simp only [emitted, true_and, Schedule.finish_succ, add_left_inj, forall_eq']
      exact not_congr eq_comm

theorem noneAtEnd_iff_along (stepPositive : 0 < stepSize)
    (stepLeWindow : stepSize ≤ windowSize) (stream : List Record) :
    NoneAtEnd timestamp ⟨firstTime stream, windowSize, stepSize⟩ stream ↔
      (machine Record).Along
        (fun manager record => manager.rejects record = false →
          ¬ArrivesAtEnd (firstTime stream) manager record)
        (create windowSize stepSize) stream := by
  refine forall₄_congr ?_
  intro before record after split
  have starts : StartsAt timestamp (firstTime stream) (before ++ [record]) := by
    have whole := startsAt_firstTime stream
    nth_rewrite 2 [split] at whole
    rw [List.append_cons] at whole
    exact whole.of_append
  change (_ → _) ↔
    ((afterStream windowSize stepSize before).rejects record = false → _)
  rw [(tracks_afterStream windowSize stepPositive.le before).rejects_eq_false_iff]
  refine imp_congr_right ?_
  intro admissible
  exact forall_finish_ne_iff_not_arrivesAtEnd stepPositive stepLeWindow starts
    admissible

/-! ## The order of ties -/

/-- The second window has the interval of the first and the same records, in an
order of its own. -/
structure SameRecords (first second : Window Record) : Prop where
  startTime : first.startTime = second.startTime
  endTime : first.endTime = second.endTime
  records : first.records.Perm second.records

local instance : Timestamped Timestamp where
  timestamp := id

theorem sameRecords_of_sameTimes {first second : Window Record}
    {history other : List Record} (perm : history.Perm other)
    (sameTimes : mapWindow (timestamp : Record → Timestamp) first =
      mapWindow timestamp second)
    (complete : first.records = (toEmission first).within timestamp history)
    (partly : second.records.Sublist ((toEmission second).within timestamp other)) :
    SameRecords first second := by
  have startTime : first.startTime = second.startTime := by
    simpa [mapWindow] using congrArg Window.startTime sameTimes
  have endTime : first.endTime = second.endTime := by
    simpa [mapWindow] using congrArg Window.endTime sameTimes
  have sameLength : first.records.length = second.records.length := by
    simpa [mapWindow] using congrArg (·.records.length) sameTimes
  have permWithin : ((toEmission first).within timestamp history).Perm
      ((toEmission second).within timestamp other) := by
    simp only [Emission.within, toEmission, startTime, endTime]
    exact perm.filter _
  refine ⟨startTime, endTime, ?_⟩
  rw [complete] at sameLength ⊢
  rw [partly.eq_of_length (sameLength.symm.trans permWithin.length_eq)]
  exact permWithin

theorem map_timestamp_emittedWindows (windowSize stepSize : Duration)
    (stream : List Record) :
    (emittedWindows windowSize stepSize stream).map
        (mapWindow (timestamp : Record → Timestamp)) =
      emittedWindows windowSize stepSize (stream.map timestamp) :=
  map_emittedWindows_of_sameTime (timestamp : Record → Timestamp) (fun _ => rfl)
    windowSize stepSize stream

/-- Where the windows are complete, the order in which records with equal
timestamps arrive does not matter. -/
theorem CompleteWindows.sameRecords (stepNonneg : 0 ≤ stepSize)
    {stream other : List Record}
    (complete : CompleteWindows windowSize stepSize stream)
    (sameTimes : stream.map (timestamp : Record → Timestamp) = other.map timestamp)
    (sameAccepted : (accepted timestamp stream).Perm (accepted timestamp other)) :
    List.Forall₂ SameRecords (emittedWindows windowSize stepSize stream)
      (emittedWindows windowSize stepSize other) := by
  have sameWindows := map_timestamp_emittedWindows windowSize stepSize stream
  rw [sameTimes, ← map_timestamp_emittedWindows] at sameWindows
  apply List.forall₂_of_length_eq_of_get
  · simpa using congrArg List.length sameWindows
  · intro index inFirst inSecond
    have isSecond := List.getElem?_eq_getElem inSecond
    have sameTimesHere := congrArg (·[index]?) sameWindows
    simp only [List.getElem?_map, isSecond, List.getElem?_eq_getElem inFirst,
      Option.map_some, Option.some.injEq] at sameTimesHere
    exact sameRecords_of_sameTimes sameAccepted sameTimesHere
      (complete _ (List.getElem_mem inFirst))
      (wellFilled_of_getElem? (startsAt_firstTime other)
        (getElem?_windows stepNonneg isSecond)).sublist_within

/-- The windows of a run are complete if and only if no accepted record arrives on
the end of the last window emitted before it. In such a run no other order of the
records with equal timestamps leads to other windows. -/
theorem windows_complete_iff (windowSize stepSize : Duration)
    (stepPositive : 0 < stepSize) (stepLeWindow : stepSize ≤ windowSize)
    (stream : List Record) :
    let noneAtEnd := (machine Record).Along
      (fun manager record => manager.rejects record = false →
        ¬ArrivesAtEnd (firstTime stream) manager record)
      (create windowSize stepSize) stream
    (CompleteWindows windowSize stepSize stream ↔ noneAtEnd) ∧
      (noneAtEnd → ∀ other : List Record,
        stream.map (timestamp : Record → Timestamp) = other.map timestamp →
        (accepted timestamp stream).Perm (accepted timestamp other) →
          List.Forall₂ SameRecords (emittedWindows windowSize stepSize stream)
            (emittedWindows windowSize stepSize other)) := by
  intro noneAtEnd
  have sizeNonneg : 0 ≤ windowSize := stepPositive.le.trans stepLeWindow
  have complete : CompleteWindows windowSize stepSize stream ↔ noneAtEnd := by
    rw [completeWindows_iff stepPositive.le,
      complete_iff_noneAtEnd (startsAt_firstTime stream) sizeNonneg]
    exact noneAtEnd_iff_along stepPositive stepLeWindow stream
  refine ⟨complete, ?_⟩
  intro none other sameTimes sameAccepted
  exact (complete.mpr none).sameRecords stepPositive.le sameTimes sameAccepted

/-- Two records that tie inside a window may be swapped. -/
theorem windows_complete_iff_for_inner_tie :
    let first : ParsedRecord := { timestamp := 1, functionCode := 1 }
    let second : ParsedRecord := { timestamp := 1, functionCode := 2 }
    let last : ParsedRecord := { timestamp := 5 }
    CompleteWindows 4 1 [first, second, last] ∧
      List.Forall₂ SameRecords (emittedWindows 4 1 [first, second, last])
        (emittedWindows 4 1 [second, first, last]) := by
  intro first second last
  have completeIff := windows_complete_iff 4 1 (by decide) (by decide)
    [first, second, last]
  have noneAtEnd : (machine ParsedRecord).Along
      (fun manager record => manager.rejects record = false →
        ¬ArrivesAtEnd (firstTime [first, second, last]) manager record)
      (create 4 1) [first, second, last] := by
    rw [Machine.along_cons, Machine.along_cons, Machine.along_cons]
    exact ⟨by decide, by decide, by decide, Machine.along_nil _ _ _⟩
  exact ⟨completeIff.1.mpr noneAtEnd,
    completeIff.2 noneAtEnd [second, first, last] rfl (by decide)⟩

/-- A second record on the end of the first window is missing from it. -/
theorem second_record_at_end_missing :
    ¬∀ (windowSize stepSize : Duration), 0 < stepSize → stepSize ≤ windowSize →
      ∀ stream : List ParsedRecord, CompleteWindows windowSize stepSize stream := by
  intro everywhere
  let tie : ParsedRecord := { timestamp := milliseconds 5000 }
  have complete := everywhere (milliseconds 5000) (milliseconds 1000) (by decide)
    (by decide) [{ timestamp := 0 }, tie, tie]
  have emitted : emittedWindows (milliseconds 5000) (milliseconds 1000)
      [{ timestamp := 0 }, tie, tie] =
        [{ startTime := 0
           endTime := milliseconds 5000
           records := [{ timestamp := 0 }, tie] }] := by
    decide +kernel
  rw [CompleteWindows, emitted, List.forall_mem_singleton] at complete
  exact absurd complete (by decide +kernel)

end Prism.Windowing.WindowManager

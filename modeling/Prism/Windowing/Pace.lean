import Prism.Windowing.Refinement

/-! # When the schedule keeps up with the stream

One call of `addRecord` advances the schedule by at most one step, however far
the record's timestamp has moved on. A pause in the traffic therefore leaves
windows overdue, and the lag stays for the rest of the run.
-/

namespace Prism.Windowing.WindowManager

open SlidingWindow

variable {Record : Type} [Timestamped Record] {windowSize stepSize : Duration}

/-- The timestamp of the first record, on which the schedule is built. -/
def firstTime (stream : List Record) : Timestamp :=
  (stream.head?.map timestamp).getD 0

theorem startsAt_firstTime (stream : List Record) :
    StartsAt timestamp (firstTime stream) stream := by
  intro first isFirst
  rw [firstTime, Option.mem_def.mp isFirst, Option.map_some, Option.getD_some]

theorem nextEmitTime_afterStream (stepNonneg : 0 ≤ stepSize) {origin : Timestamp}
    {stream : List Record} (starts : StartsAt timestamp origin stream)
    (nonempty : stream ≠ []) :
    (afterStream windowSize stepSize stream).nextEmitTime =
      Schedule.finish ⟨origin, windowSize, stepSize⟩
        (windows timestamp ⟨origin, windowSize, stepSize⟩ stream).length := by
  rw [windows, ← map_emittedWindows windowSize stepNonneg, List.length_map]
  rcases tracks_afterStream windowSize stepNonneg stream with
    ⟨_, fresh⟩ | ⟨other, running⟩
  · have noHistory : accepted timestamp stream = [] := congrArg Naive.history fresh
    have noHead : stream.head? = none := by
      rw [← head?_accepted timestamp, noHistory]
      rfl
    exact absurd (List.head?_eq_none_iff.mp noHead) nonempty
  · have sameOrigin : other = origin := by
      have first := running.origin
      rw [head?_accepted] at first
      rcases Option.map_eq_some_iff.mp first with ⟨record, isFirst, time⟩
      exact time.symm.trans (starts record isFirst)
    rw [running.nextEmitTime, sameOrigin]

/-- An accepted record leaves no overdue window exactly when the window it
triggers, if any, ends less than a step before it. -/
theorem lt_nextEmitTime_iff {manager : WindowManager Record} {record : Record}
    (accepts : manager.rejects record = false) (outWindow : Window Record) :
    timestamp record < ((machine Record).step manager record).1.nextEmitTime ↔
      ((manager.addRecord record outWindow).emitted = true →
        timestamp record - (manager.addRecord record outWindow).outWindow.endTime <
          manager.stepSize) := by
  by_cases due : (manager.push record).nextEmitTime ≤ timestamp record
  · rw [machine_step_of_due accepts due, addRecord_of_due accepts due]
    simp only [advance_nextEmitTime, push_stepSize, fill_endTime, forall_const]
    exact sub_lt_iff_lt_add'.symm
  · rw [machine_step_of_not_due accepts due, addRecord_of_not_due accepts due]
    simpa using due

theorem stepSize_afterStream (stepNonneg : 0 ≤ stepSize) (stream : List Record) :
    (afterStream windowSize stepSize stream).stepSize = stepSize := by
  rcases tracks_afterStream windowSize stepNonneg stream with
    ⟨fresh, _⟩ | ⟨_, running⟩
  · rw [fresh]
    rfl
  · exact running.stepSize

theorem afterStream_concat (stream : List Record) (record : Record) :
    afterStream windowSize stepSize (stream ++ [record]) =
      ((machine Record).step (afterStream windowSize stepSize stream) record).1 :=
  (machine Record).finalState_append _ stream [record]

/-- After every accepted record no window is overdue, and equivalently every
window ends less than one step before the record that triggers it, exactly on
the streams in which at most one scheduled window end falls between any two
consecutive accepted records. -/
theorem keeps_up_iff_no_window_skipped (windowSize stepSize : Duration)
    (stepPositive : 0 < stepSize) (stepLeWindow : stepSize ≤ windowSize)
    (stream : List Record) :
    let windowEnd (index : Nat) : Timestamp :=
      firstTime stream + windowSize + index * stepSize
    let skipsNoWindow := (accepted timestamp stream).IsChain fun earlier later =>
      ¬∃ index : Nat, timestamp earlier < windowEnd index ∧
        windowEnd (index + 1) ≤ timestamp later
    ((∀ before record after, stream = before ++ record :: after →
        Admissible timestamp (accepted timestamp before) record →
        timestamp record <
          (afterStream windowSize stepSize (before ++ [record])).nextEmitTime) ↔
      skipsNoWindow) ∧
    ((∀ before record after, stream = before ++ record :: after →
        ∀ outWindow,
          let result :=
            (afterStream windowSize stepSize before).addRecord record outWindow
          result.emitted = true →
            timestamp record - result.outWindow.endTime < stepSize) ↔
      skipsNoWindow) := by
  intro windowEnd skipsNoWindow
  have stepNonneg : 0 ≤ stepSize := stepPositive.le
  let schedule : Schedule Timestamp := ⟨firstTime stream, windowSize, stepSize⟩
  have starts := startsAt_firstTime stream
  have pace : KeepsPace timestamp schedule stream ↔ skipsNoWindow :=
    (keepsPace_iff_isChain starts
      (stepPositive.trans_le stepLeWindow) stepNonneg).1
  have startsBefore : ∀ before record after, stream = before ++ record :: after →
      StartsAt timestamp schedule.origin (before ++ [record]) := by
    intro before record after equal first isFirst
    apply starts
    rw [equal]
    cases before <;> simpa using isFirst
  rw [← pace]
  constructor
  · refine forall_congr' fun before => forall_congr' fun record =>
      forall_congr' fun after => forall_congr' fun equal => ?_
    rw [nextEmitTime_afterStream stepNonneg
      (startsBefore before record after equal) (by simp)]
  · refine forall_congr' fun before => forall_congr' fun record =>
      forall_congr' fun after => forall_congr' fun equal => ?_
    rw [← nextEmitTime_afterStream stepNonneg
      (startsBefore before record after equal) (by simp), afterStream_concat]
    have tracks := tracks_afterStream windowSize stepNonneg before
    by_cases admissible : Admissible timestamp (accepted timestamp before) record
    · have accepts := (tracks.rejects_eq_false_iff record).mpr admissible
      have stepIff := lt_nextEmitTime_iff accepts
      rw [stepSize_afterStream stepNonneg] at stepIff
      simp only [admissible, forall_const]
      exact ⟨fun each => (stepIff {}).mpr (each {}),
        fun inPace outWindow => (stepIff outWindow).mp inPace⟩
    · have rejected := tracks.rejects_of_not_admissible admissible
      simp [addRecord_of_rejects rejected, admissible]

theorem keeps_up_iff_no_window_skipped_when_steady :
    let stream : List ParsedRecord :=
      [{ timestamp := 0 }, { timestamp := milliseconds 5500 }]
    ∀ before record after, stream = before ++ record :: after →
      Admissible timestamp (accepted timestamp before) record →
      timestamp record < (afterStream (milliseconds 5000) (milliseconds 1000)
        (before ++ [record])).nextEmitTime := by
  intro stream
  refine (keeps_up_iff_no_window_skipped (milliseconds 5000) (milliseconds 1000)
    (by decide) (by decide) stream).1.mpr ?_
  rw [show accepted timestamp stream = stream by decide +kernel]
  refine .cons_cons ?_ (.singleton _)
  rintro ⟨index, _, skipped⟩
  have late : (5000000000 : Int) + ((index : Int) + 1) * 1000000000 ≤
      5500000000 := by
    simpa [stream, firstTime, timestamp, milliseconds] using skipped
  omega

/-- A pause of seven seconds between two records leaves a window overdue. -/
theorem overdue_after_pause :
    ¬∀ windowSize stepSize : Duration, 0 < stepSize → stepSize ≤ windowSize →
      ∀ (stream before : List ParsedRecord) record after,
        stream = before ++ record :: after →
        Admissible timestamp (accepted timestamp before) record →
        timestamp record <
          (afterStream windowSize stepSize (before ++ [record])).nextEmitTime := by
  intro everywhere
  let first : ParsedRecord := { timestamp := 0 }
  let second : ParsedRecord := { timestamp := milliseconds 7000 }
  have inTime := everywhere (milliseconds 5000) (milliseconds 1000) (by decide)
    (by decide) [first, second] [first] second [] rfl (by decide +kernel)
  revert inTime
  decide +kernel

end Prism.Windowing.WindowManager

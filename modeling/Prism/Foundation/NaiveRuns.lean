import Mathlib.Data.List.Chain
import Mathlib.Data.List.Nodup
import Prism.Foundation.SlidingWindow

/-! # Runs of the naive sliding window

What a consumer can rely on: when a window is emitted, what it holds, which
records it may miss, and when the schedule falls behind the stream.
-/

namespace Prism.SlidingWindow

/-! ## Streams on a schedule -/

section Starts

variable {Record : Type u} {Time : Type v}

/-- The stream is empty or its first record sets the origin of the schedule. -/
def StartsAt (time : Record → Time) (origin : Time) (stream : List Record) : Prop :=
  ∀ first ∈ stream.head?, time first = origin

theorem StartsAt.of_append {time : Record → Time} {origin : Time}
    {before after : List Record} (starts : StartsAt time origin (before ++ after)) :
    StartsAt time origin before := by
  intro first isFirst
  exact starts first (by simp [Option.mem_def.mp isFirst])

theorem StartsAt.of_concat {time : Record → Time} {origin : Time}
    {stream : List Record} {record : Record}
    (starts : StartsAt time origin (stream ++ [record])) :
    StartsAt time origin stream :=
  starts.of_append

variable [LinearOrder Time] {time : Record → Time} {schedule : Schedule Time}

theorem StartsAt.scheduleOf_eq {stream : List Record} {record : Record}
    (starts : StartsAt time schedule.origin (stream ++ [record])) :
    scheduleOf time schedule.size schedule.step (accepted time stream) record =
      schedule := by
  have origin : time ((accepted time stream).headD record) = schedule.origin := by
    apply starts
    rw [List.headD_eq_head?_getD, head?_accepted]
    cases stream <;> simp
  rw [scheduleOf, origin]

theorem StartsAt.origin_le {stream : List Record}
    (starts : StartsAt time schedule.origin stream) {record : Record}
    (member : record ∈ accepted time stream) :
    schedule.origin ≤ time record := by
  have inOrder := accepted_inOrder time stream
  cases history : accepted time stream with
  | nil => simp [history] at member
  | cons first rest =>
      have isFirst : first ∈ stream.head? := by
        rw [← head?_accepted time, history]
        rfl
      rw [history] at member inOrder
      rw [← starts first isFirst]
      rcases List.mem_cons.mp member with rfl | member
      · exact le_rfl
      · exact (List.pairwise_cons.mp inOrder).1 record member

end Starts

variable {Record : Type u} {Time : Type v} [AddCommGroup Time] [LinearOrder Time]

/-! ## Emitted windows -/

section Steps

variable (time : Record → Time) (size step : Time)

def emissions (stream : List Record) : List (Emission Record Time) :=
  ((naive time size step).outputs ⟨[], 0⟩ stream).reduceOption

theorem naive_finalState (stream : List Record) :
    (naive time size step).finalState ⟨[], 0⟩ stream =
      ⟨accepted time stream, (emissions time size step stream).length⟩ := by
  rw [emissions, ← naive_history time size step, ← naive_emitted time size step]

@[simp] theorem emissions_nil : emissions time size step [] = [] := rfl

theorem emissions_concat (stream : List Record) (record : Record) :
    emissions time size step (stream ++ [record]) =
      emissions time size step stream ++
        ((naive time size step).step
          ⟨accepted time stream, (emissions time size step stream).length⟩
          record).2.toList := by
  rw [emissions, Machine.outputs_append, List.reduceOption_append,
    naive_finalState, Machine.outputs_cons, Machine.outputs_nil]
  cases ((naive time size step).step
      ⟨accepted time stream, (emissions time size step stream).length⟩
      record).2 <;> rfl

theorem emissions_concat_of_rejected {stream : List Record} {record : Record}
    (rejected : ¬Admissible time (accepted time stream) record) :
    emissions time size step (stream ++ [record]) =
      emissions time size step stream := by
  simp [emissions_concat, naive, rejected]

end Steps

section Runs

variable {time : Record → Time} {schedule : Schedule Time}

variable (time schedule) in
abbrev windows (stream : List Record) : List (Emission Record Time) :=
  emissions time schedule.size schedule.step stream

theorem windows_concat_of_due {stream : List Record} {record : Record}
    (starts : StartsAt time schedule.origin (stream ++ [record]))
    (admissible : Admissible time (accepted time stream) record)
    (due : schedule.finish (windows time schedule stream).length ≤ time record) :
    windows time schedule (stream ++ [record]) =
      windows time schedule stream ++
        [emission time schedule (accepted time stream ++ [record])
          (windows time schedule stream).length] := by
  simp only [windows, emissions_concat, naive, starts.scheduleOf_eq,
    if_pos admissible, if_pos due, Option.toList_some]

theorem windows_concat_of_not_due {stream : List Record} {record : Record}
    (starts : StartsAt time schedule.origin (stream ++ [record]))
    (admissible : Admissible time (accepted time stream) record)
    (notDue : ¬schedule.finish (windows time schedule stream).length ≤ time record) :
    windows time schedule (stream ++ [record]) = windows time schedule stream := by
  simp only [windows, emissions_concat, naive, starts.scheduleOf_eq,
    if_pos admissible, if_neg notDue, Option.toList_none, List.append_nil]

theorem finish_le_last {stream : List Record}
    (starts : StartsAt time schedule.origin stream) {index : Nat}
    (emitted : index < (windows time schedule stream).length) :
    ∃ last ∈ (accepted time stream).getLast?, schedule.finish index ≤ time last := by
  induction stream using List.reverseRecOn with
  | nil => cases emitted
  | append_singleton stream record induction =>
      by_cases admissible : Admissible time (accepted time stream) record
      · rw [accepted_concat_of_admissible admissible]
        refine ⟨record, by simp, ?_⟩
        have earlier : index < (windows time schedule stream).length →
            schedule.finish index ≤ time record := by
          intro before
          rcases induction starts.of_concat before with ⟨last, isLast, finishLe⟩
          exact finishLe.trans (admissible last isLast)
        by_cases due :
            schedule.finish (windows time schedule stream).length ≤ time record
        · rw [windows_concat_of_due starts admissible due,
            List.length_append, List.length_singleton] at emitted
          rcases Nat.lt_succ_iff_lt_or_eq.mp emitted with before | rfl
          · exact earlier before
          · exact due
        · rw [windows_concat_of_not_due starts admissible due] at emitted
          exact earlier emitted
      · rw [accepted_concat_of_rejected admissible]
        rw [windows, emissions_concat_of_rejected _ _ _ admissible] at emitted
        exact induction starts.of_concat emitted

/-! ## What an emitted window holds -/

variable (time schedule) in
/-- The window of this index, emitted somewhere in a run with this history: it
holds covered records in arrival order, and all those strictly before its end. A
record at the very end may have arrived after the window was emitted. -/
structure WellFilled (history : List Record) (index : Nat)
    (window : Emission Record Time) : Prop where
  start : window.start = schedule.start index
  finish : window.finish = schedule.finish index
  sublist : window.records.Sublist history
  covered : ∀ record ∈ window.records, schedule.Covers index (time record)
  complete : ∀ record ∈ history, schedule.start index ≤ time record →
    time record < schedule.finish index → record ∈ window.records

theorem emission_wellFilled (history : List Record) (index : Nat) :
    WellFilled time schedule history index
      (emission time schedule history index) where
  start := rfl
  finish := rfl
  sublist := List.filter_sublist
  covered record member := by
    simpa using (List.mem_filter.mp member).2
  complete record member started notEnded := by
    refine List.mem_filter.mpr ⟨member, ?_⟩
    exact decide_eq_true ⟨started, notEnded.le⟩

theorem WellFilled.concat {history : List Record} {index : Nat}
    {window : Emission Record Time}
    (filled : WellFilled time schedule history index window) {record : Record}
    (ended : schedule.finish index ≤ time record) :
    WellFilled time schedule (history ++ [record]) index window where
  start := filled.start
  finish := filled.finish
  sublist := filled.sublist.trans (List.sublist_append_left _ _)
  covered := filled.covered
  complete held member started notEnded := by
    rcases List.mem_append.mp member with member | member
    · exact filled.complete held member started notEnded
    · rw [List.mem_singleton.mp member] at notEnded
      exact absurd ended (not_le.mpr notEnded)

/-- Every window of a run is well filled from everything the run accepts, before
and after the window was emitted. -/
theorem wellFilled_of_getElem? {stream : List Record}
    (starts : StartsAt time schedule.origin stream) {index : Nat}
    {window : Emission Record Time}
    (emitted : (windows time schedule stream)[index]? = some window) :
    WellFilled time schedule (accepted time stream) index window := by
  induction stream using List.reverseRecOn with
  | nil => simp at emitted
  | append_singleton stream record induction =>
      by_cases admissible : Admissible time (accepted time stream) record
      · rw [accepted_concat_of_admissible admissible]
        have earlier : (windows time schedule stream)[index]? = some window →
            WellFilled time schedule (accepted time stream ++ [record]) index
              window := by
          intro before
          have inRange := (List.getElem?_eq_some_iff.mp before).1
          rcases finish_le_last starts.of_concat inRange with
            ⟨last, isLast, finishLe⟩
          exact (induction starts.of_concat before).concat
            (finishLe.trans (admissible last isLast))
        by_cases due :
            schedule.finish (windows time schedule stream).length ≤ time record
        · rw [windows_concat_of_due starts admissible due] at emitted
          rcases Nat.lt_or_ge index (windows time schedule stream).length with
            before | after
          · rw [List.getElem?_append_left before] at emitted
            exact earlier emitted
          · rw [List.getElem?_append_right after,
              List.getElem?_singleton] at emitted
            split at emitted
            · have isNew : index = (windows time schedule stream).length := by
                omega
              rw [← Option.some.inj emitted, isNew]
              exact emission_wellFilled _ _
            · cases emitted
        · rw [windows_concat_of_not_due starts admissible due] at emitted
          exact earlier emitted
      · rw [accepted_concat_of_rejected admissible]
        rw [windows, emissions_concat_of_rejected _ _ _ admissible] at emitted
        exact induction starts.of_concat emitted

/-! ## Which windows hold a record -/

section Coverage

variable {stream : List Record}

theorem exists_getElem?_of_le {index last : Nat}
    {lastWindow : Emission Record Time}
    (isLast : (windows time schedule stream)[last]? = some lastWindow)
    (le : index ≤ last) :
    ∃ window, (windows time schedule stream)[index]? = some window := by
  have inRange := (List.getElem?_eq_some_iff.mp isLast).1
  exact ⟨_, List.getElem?_eq_getElem (le.trans_lt inRange)⟩

variable [IsOrderedAddMonoid Time]

/-- No accepted record that an emitted window has passed by was missed. -/
theorem exists_window_of_lt_finish
    (starts : StartsAt time schedule.origin stream)
    (stepLeSize : schedule.step ≤ schedule.size) {record : Record}
    (member : record ∈ accepted time stream) {last : Nat}
    {lastWindow : Emission Record Time}
    (isLast : (windows time schedule stream)[last]? = some lastWindow)
    (passed : time record < lastWindow.finish) :
    ∃ window ∈ windows time schedule stream, record ∈ window.records := by
  rw [(wellFilled_of_getElem? starts isLast).finish] at passed
  rcases Schedule.exists_window stepLeSize (starts.origin_le member) passed with
    ⟨index, indexLe, started, notEnded⟩
  rcases exists_getElem?_of_le isLast indexLe with ⟨window, isWindow⟩
  exact ⟨window, List.mem_of_getElem? isWindow,
    (wellFilled_of_getElem? starts isWindow).complete record member started
      notEnded⟩

theorem nsmul_step_le_size_of_mem
    (starts : StartsAt time schedule.origin stream) {record : Record}
    {first gap : Nat} {earlier later : Emission Record Time}
    (isEarlier : (windows time schedule stream)[first]? = some earlier)
    (isLater : (windows time schedule stream)[first + gap]? = some later)
    (inEarlier : record ∈ earlier.records) (inLater : record ∈ later.records) :
    gap • schedule.step ≤ schedule.size :=
  Schedule.nsmul_step_le_size
    ((wellFilled_of_getElem? starts isEarlier).covered record inEarlier).2
    ((wellFilled_of_getElem? starts isLater).covered record inLater).1

omit [IsOrderedAddMonoid Time] in
theorem count_le_one_of_mem [BEq Record] [LawfulBEq Record]
    (starts : StartsAt time schedule.origin stream)
    (distinct : stream.Nodup) {window : Emission Record Time}
    (member : window ∈ windows time schedule stream) (record : Record) :
    window.records.count record ≤ 1 := by
  rcases List.mem_iff_getElem?.mp member with ⟨index, isWindow⟩
  have sublist := (wellFilled_of_getElem? starts isWindow).sublist.trans
    (accepted_sublist time stream)
  exact List.nodup_iff_count_le_one.mp (distinct.sublist sublist) record

end Coverage

theorem countP_le_of_close {Element : Type u} {holds : Element → Bool}
    {elements : List Element} {bound : Nat}
    (close : ∀ first gap earlier later, elements[first]? = some earlier →
      elements[first + gap]? = some later → holds earlier = true →
      holds later = true → gap ≤ bound) :
    elements.countP holds ≤ bound + 1 := by
  induction elements with
  | nil => simp
  | cons head tail induction =>
      by_cases headHolds : holds head = true
      · have noneLater : ((head :: tail).drop (bound + 1)).countP holds = 0 := by
          rw [List.countP_eq_zero]
          intro element member elementHolds
          rcases List.mem_iff_getElem?.mp member with ⟨index, isElement⟩
          rw [List.getElem?_drop, ← Nat.zero_add (bound + 1 + index)] at isElement
          have near := close 0 _ head element rfl isElement headHolds elementHolds
          omega
        rw [← List.take_append_drop (bound + 1) (head :: tail), List.countP_append,
          noneLater, Nat.add_zero]
        exact List.countP_le_length.trans (List.length_take_le _ _)
      · rw [List.countP_cons_of_neg headHolds]
        refine induction fun first gap earlier later isEarlier isLater => ?_
        refine close (first + 1) gap earlier later isEarlier ?_
        rw [Nat.add_right_comm]
        exact isLater

/-! ## Keeping pace with the stream -/

variable [IsOrderedAddMonoid Time]

variable (time schedule) in
def SkipsWindow (earlier later : Record) : Prop :=
  ∃ index, time earlier < schedule.finish index ∧
    schedule.finish (index + 1) ≤ time later

variable (time schedule) in
/-- No window was overdue when the last record had been processed. -/
def InPace (stream : List Record) : Prop :=
  ∀ last ∈ (accepted time stream).getLast?,
    time last < schedule.finish (windows time schedule stream).length

omit [IsOrderedAddMonoid Time] in
theorem length_windows_concat_le {stream : List Record} {record : Record}
    (starts : StartsAt time schedule.origin (stream ++ [record])) :
    (windows time schedule (stream ++ [record])).length ≤
      (windows time schedule stream).length + 1 := by
  by_cases admissible : Admissible time (accepted time stream) record
  · by_cases due :
        schedule.finish (windows time schedule stream).length ≤ time record
    · rw [windows_concat_of_due starts admissible due, List.length_append,
        List.length_singleton]
    · rw [windows_concat_of_not_due starts admissible due]
      exact Nat.le_succ _
  · rw [windows, emissions_concat_of_rejected _ _ _ admissible]
    exact Nat.le_succ _

omit [IsOrderedAddMonoid Time] in
theorem inPace_concat_iff_lt {stream : List Record} {record : Record}
    (admissible : Admissible time (accepted time stream) record) :
    InPace time schedule (stream ++ [record]) ↔
      time record < schedule.finish
        (windows time schedule (stream ++ [record])).length := by
  simp [InPace, accepted_concat_of_admissible admissible]

theorem lt_finish_of_no_history {stream : List Record} {record : Record}
    (starts : StartsAt time schedule.origin (stream ++ [record]))
    (sizePositive : 0 < schedule.size)
    (fresh : (accepted time stream).getLast? = none) :
    time record < schedule.finish (windows time schedule stream).length := by
  have noHistory : accepted time stream = [] := List.getLast?_eq_none_iff.mp fresh
  have empty : stream = [] := by
    rw [← List.head?_eq_none_iff, ← head?_accepted time, noHistory]
    rfl
  subst empty
  have isOrigin : time record = schedule.origin := starts record (by simp)
  rw [isOrigin, windows, emissions_nil, List.length_nil,
    Schedule.finish_eq_start_add, Schedule.start_zero]
  exact lt_add_of_pos_right _ sizePositive

/-- A run in pace stays in pace exactly when the next accepted record skips no
window. -/
theorem inPace_concat_iff {stream : List Record} {record : Record}
    (starts : StartsAt time schedule.origin (stream ++ [record]))
    (sizePositive : 0 < schedule.size) (stepNonneg : 0 ≤ schedule.step)
    (inPace : InPace time schedule stream)
    (admissible : Admissible time (accepted time stream) record) :
    InPace time schedule (stream ++ [record]) ↔
      ∀ last ∈ (accepted time stream).getLast?,
        ¬SkipsWindow time schedule last record := by
  rw [inPace_concat_iff_lt admissible]
  constructor
  · rintro before last lastMember ⟨index, afterLast, skipped⟩
    have pending : (windows time schedule stream).length ≤ index := by
      by_contra emitted
      rcases finish_le_last starts.of_concat (not_le.mp emitted) with
        ⟨other, otherMember, finishLe⟩
      rw [Option.mem_unique otherMember lastMember] at finishLe
      exact absurd finishLe (not_le.mpr afterLast)
    have ends := before.trans_le (Schedule.finish_mono stepNonneg
      ((length_windows_concat_le starts).trans (Nat.succ_le_succ pending)))
    exact absurd ends (not_lt.mpr skipped)
  · intro noSkip
    by_cases due :
        schedule.finish (windows time schedule stream).length ≤ time record
    · rw [windows_concat_of_due starts admissible due, List.length_append,
        List.length_singleton]
      by_contra late
      cases history : (accepted time stream).getLast? with
      | none =>
          exact absurd due
            (not_le.mpr (lt_finish_of_no_history starts sizePositive history))
      | some last =>
          exact noSkip last history ⟨_, inPace last history, not_lt.mp late⟩
    · rw [windows_concat_of_not_due starts admissible due]
      exact not_le.mp due

variable (time schedule) in
def KeepsPace (stream : List Record) : Prop :=
  ∀ before record after, stream = before ++ record :: after →
    Admissible time (accepted time before) record →
      time record < schedule.finish
        (windows time schedule (before ++ [record])).length

theorem forall_split_concat {Property : List Record → Record → Prop}
    (stream : List Record) (record : Record) :
    (∀ before next after, stream ++ [record] = before ++ next :: after →
        Property before next) ↔
      (∀ before next after, stream = before ++ next :: after →
        Property before next) ∧ Property stream record := by
  constructor
  · intro all
    refine ⟨fun before next after equal => ?_, all stream record [] rfl⟩
    exact all before next (after ++ [record]) (by simp [equal])
  · rintro ⟨earlier, last⟩ before next after equal
    induction after using List.reverseRecOn with
    | nil =>
        rcases List.append_inj' equal rfl with ⟨rfl, isLast⟩
        rwa [← (List.cons.inj isLast).1]
    | append_singleton after final _ =>
        have regrouped : stream ++ [record] = (before ++ next :: after) ++ [final] := by
          simpa using equal
        exact earlier before next after (List.append_inj' regrouped rfl).1

theorem keepsPace_iff_isChain {stream : List Record}
    (starts : StartsAt time schedule.origin stream)
    (sizePositive : 0 < schedule.size) (stepNonneg : 0 ≤ schedule.step) :
    (KeepsPace time schedule stream ↔
        (accepted time stream).IsChain fun earlier later =>
          ¬SkipsWindow time schedule earlier later) ∧
      (KeepsPace time schedule stream → InPace time schedule stream) := by
  induction stream using List.reverseRecOn with
  | nil => simp [KeepsPace, InPace]
  | append_singleton stream record induction =>
      rcases induction starts.of_concat with ⟨iffChain, inPaceOf⟩
      have split : KeepsPace time schedule (stream ++ [record]) ↔ _ :=
        forall_split_concat stream record
      rw [split]
      by_cases admissible : Admissible time (accepted time stream) record
      · simp only [admissible, forall_const,
          ← inPace_concat_iff_lt admissible]
        refine ⟨?_, fun both => both.2⟩
        rw [accepted_concat_of_admissible admissible, List.isChain_append,
          ← iffChain]
        constructor
        · rintro ⟨earlier, last⟩
          refine ⟨earlier, List.IsChain.singleton _, ?_⟩
          intro previous isPrevious next isNext
          rw [List.head?_cons, Option.mem_some_iff] at isNext
          rw [← isNext]
          exact (inPace_concat_iff starts sizePositive stepNonneg
            (inPaceOf earlier) admissible).mp last previous isPrevious
        · rintro ⟨earlier, _, noSkip⟩
          refine ⟨earlier, ?_⟩
          exact (inPace_concat_iff starts sizePositive stepNonneg
            (inPaceOf earlier) admissible).mpr
              fun last isLast => noSkip last isLast record rfl
      · have unchanged : InPace time schedule (stream ++ [record]) ↔
            InPace time schedule stream := by
          rw [InPace, InPace, accepted_concat_of_rejected admissible, windows,
            emissions_concat_of_rejected _ _ _ admissible]
        rw [accepted_concat_of_rejected admissible, unchanged]
        simpa [KeepsPace, admissible] using ⟨iffChain, inPaceOf⟩

end Runs

end Prism.SlidingWindow

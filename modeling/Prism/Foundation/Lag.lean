import Mathlib.Order.Bounds.Basic
import Prism.Foundation.NaiveRuns

/-! # How far the schedule lags behind

A record triggers at most one window. The windows emitted so far are therefore
as many as there are records to pair with the ends of successive windows, and
the lag of a schedule can be read off its stream.
-/

namespace Prism.SlidingWindow

variable {Record : Type u} {Time : Type v} [AddCommGroup Time] [LinearOrder Time]
  {time : Record → Time} {schedule : Schedule Time}

/-! ## Pairing records with windows -/

variable (time schedule) in
/-- The chosen records reach, one each, the ends of the first windows. -/
def ReachEnds (chosen : List Record) : Prop :=
  ∀ index record, chosen[index]? = some record →
    schedule.finish index ≤ time record

theorem reachEnds_nil : ReachEnds time schedule [] := by
  intro index record isRecord
  cases isRecord

theorem reachEnds_concat_iff {chosen : List Record} {record : Record} :
    ReachEnds time schedule (chosen ++ [record]) ↔
      ReachEnds time schedule chosen ∧
        schedule.finish chosen.length ≤ time record := by
  constructor
  · intro reach
    refine ⟨?_, reach _ _ List.getElem?_concat_length⟩
    intro index earlier isEarlier
    apply reach index
    rw [List.getElem?_append_left (List.getElem?_eq_some_iff.mp isEarlier).1]
    exact isEarlier
  · intro both index last isLast
    rcases Nat.lt_trichotomy index chosen.length with before | same | after
    · rw [List.getElem?_append_left before] at isLast
      exact both.1 index last isLast
    · subst same
      rw [List.getElem?_concat_length] at isLast
      rw [← Option.some.inj isLast]
      exact both.2
    · have outside : (chosen ++ [record])[index]? = none :=
        List.getElem?_eq_none (by rw [List.length_append]; exact after)
      rw [outside] at isLast
      cases isLast

theorem succ_le_length_windows_concat_iff {stream : List Record} {record : Record}
    (starts : StartsAt time schedule.origin (stream ++ [record]))
    (admissible : Admissible time (accepted time stream) record) {count : Nat} :
    count + 1 ≤ (windows time schedule (stream ++ [record])).length ↔
      count ≤ (windows time schedule stream).length ∧
        schedule.finish count ≤ time record := by
  constructor
  · intro emitted
    refine ⟨Nat.le_of_succ_le_succ
      (emitted.trans (length_windows_concat_le starts)), ?_⟩
    rcases finish_le_last starts emitted with ⟨last, isLast, finishLe⟩
    rw [accepted_concat_of_admissible admissible, List.getLast?_concat,
      Option.mem_some_iff] at isLast
    rw [isLast]
    exact finishLe
  · intro both
    by_cases due :
        schedule.finish (windows time schedule stream).length ≤ time record
    · rw [windows_concat_of_due starts admissible due, List.length_append,
        List.length_singleton]
      exact Nat.succ_le_succ both.1
    · rw [windows_concat_of_not_due starts admissible due]
      rcases Nat.lt_or_eq_of_le both.1 with before | rfl
      · exact before
      · exact absurd both.2 due

theorem length_windows_concat_of_rejected {stream : List Record} {record : Record}
    (rejected : ¬Admissible time (accepted time stream) record) :
    (windows time schedule (stream ++ [record])).length =
      (windows time schedule stream).length :=
  congrArg List.length (emissions_concat_of_rejected _ _ _ rejected)

theorem exists_paired_of_le {stream : List Record} {count : Nat}
    (starts : StartsAt time schedule.origin stream)
    (emitted : count ≤ (windows time schedule stream).length) :
    ∃ chosen : List Record, chosen.Sublist (accepted time stream) ∧
      chosen.length = count ∧ ReachEnds time schedule chosen := by
  induction stream using List.reverseRecOn generalizing count with
  | nil =>
      refine ⟨[], List.nil_sublist _, ?_, reachEnds_nil⟩
      exact (Nat.le_zero.mp emitted).symm
  | append_singleton stream record induction =>
      by_cases admissible : Admissible time (accepted time stream) record
      · rw [accepted_concat_of_admissible admissible]
        cases count with
        | zero => exact ⟨[], List.nil_sublist _, rfl, reachEnds_nil⟩
        | succ count =>
            rcases (succ_le_length_windows_concat_iff starts admissible).mp
              emitted with ⟨earlier, reached⟩
            rcases induction starts.of_concat earlier with
              ⟨chosen, sublist, length, reach⟩
            refine ⟨chosen ++ [record], sublist.append_right _, ?_, ?_⟩
            · rw [List.length_append, List.length_singleton, length]
            · rw [reachEnds_concat_iff, length]
              exact ⟨reach, reached⟩
      · rw [accepted_concat_of_rejected admissible]
        rw [length_windows_concat_of_rejected admissible] at emitted
        exact induction starts.of_concat emitted

theorem length_le_of_paired {stream chosen : List Record}
    (starts : StartsAt time schedule.origin stream)
    (sublist : chosen.Sublist (accepted time stream))
    (reach : ReachEnds time schedule chosen) :
    chosen.length ≤ (windows time schedule stream).length := by
  induction stream using List.reverseRecOn generalizing chosen with
  | nil => rw [List.sublist_nil.mp sublist, List.length_nil]; exact Nat.zero_le _
  | append_singleton stream record induction =>
      by_cases admissible : Admissible time (accepted time stream) record
      · have inOrder := accepted_inOrder time (stream ++ [record])
        rw [accepted_concat_of_admissible admissible] at sublist inOrder
        induction chosen using List.reverseRecOn with
        | nil => exact Nat.zero_le _
        | append_singleton chosen last _ =>
            rcases reachEnds_concat_iff.mp reach with ⟨earlier, reached⟩
            have shorter : chosen.Sublist (accepted time stream) := by
              rw [← List.reverse_sublist] at sublist ⊢
              simpa using sublist.tail
            have member : last ∈ accepted time stream ++ [record] :=
              sublist.subset (List.mem_append_right _ (List.mem_singleton_self _))
            rw [List.length_append, List.length_singleton,
              succ_le_length_windows_concat_iff starts admissible]
            refine ⟨induction starts.of_concat shorter earlier, ?_⟩
            exact reached.trans (inOrder.le_last member (by simp))
      · rw [accepted_concat_of_rejected admissible] at sublist
        rw [length_windows_concat_of_rejected admissible]
        exact induction starts.of_concat sublist reach

/-- A run emits as many windows as any choice of its accepted records could
trigger, one window each and none before its end. -/
theorem isGreatest_length_windows {stream : List Record}
    (starts : StartsAt time schedule.origin stream) :
    IsGreatest
      { count | ∃ chosen : List Record, chosen.Sublist (accepted time stream) ∧
        chosen.length = count ∧ ReachEnds time schedule chosen }
      (windows time schedule stream).length := by
  constructor
  · exact exists_paired_of_le starts (Nat.le_refl _)
  · intro count paired
    rcases paired with ⟨chosen, sublist, length, reach⟩
    rw [← length]
    exact length_le_of_paired starts sublist reach

/-! ## The lag after a stream -/

/-- The latest accepted records decide whether a window has been emitted: each
of them is at or after the end that it would have to reach. -/
theorem lt_length_windows_iff_reverse {stream : List Record} {index : Nat}
    (starts : StartsAt time schedule.origin stream) :
    index < (windows time schedule stream).length ↔
      ∀ gap ≤ index, ∃ record, (accepted time stream).reverse[gap]? = some record ∧
        schedule.finish (index - gap) ≤ time record := by
  induction stream using List.reverseRecOn generalizing index with
  | nil =>
      refine iff_of_false (Nat.not_lt_zero index) fun all => ?_
      rcases all 0 (Nat.zero_le _) with ⟨record, isRecord, _⟩
      cases isRecord
  | append_singleton stream record induction =>
      by_cases admissible : Admissible time (accepted time stream) record
      · rw [Nat.lt_iff_add_one_le,
          succ_le_length_windows_concat_iff starts admissible,
          accepted_concat_of_admissible admissible, List.reverse_concat]
        cases index with
        | zero => simp
        | succ index =>
            rw [Nat.add_one_le_iff, induction starts.of_concat]
            constructor
            · intro both gap gapLe
              cases gap with
              | zero => exact ⟨record, rfl, both.2⟩
              | succ gap =>
                  rw [List.getElem?_cons_succ, Nat.add_sub_add_right]
                  exact both.1 gap (Nat.le_of_succ_le_succ gapLe)
            · intro all
              constructor
              · intro gap gapLe
                have next := all (gap + 1) (Nat.succ_le_succ gapLe)
                rwa [List.getElem?_cons_succ, Nat.add_sub_add_right] at next
              · rcases all 0 (Nat.zero_le _) with ⟨last, isLast, reached⟩
                rw [List.getElem?_cons_zero] at isLast
                rw [Option.some.inj isLast]
                exact reached
      · rw [accepted_concat_of_rejected admissible,
          length_windows_concat_of_rejected admissible]
        exact induction starts.of_concat

variable (time schedule) in
/-- At most this many windows have ended without having been emitted. -/
def LagsAtMost (bound : Nat) (stream : List Record) : Prop :=
  ∀ last ∈ (accepted time stream).getLast?,
    time last < schedule.finish ((windows time schedule stream).length + bound)

variable (time schedule) in
/-- Since the accepted record that is `gap` places before the last one, more
than `bound` window ends have passed that no record was there for. -/
def Outruns (bound : Nat) (stream : List Record) : Prop :=
  ∃ gap index earlier last, (accepted time stream).reverse[gap]? = some earlier ∧
    (accepted time stream).getLast? = some last ∧
    time earlier < schedule.finish index ∧
    schedule.finish (index + gap + bound) ≤ time last

omit [AddCommGroup Time] in
theorem exists_first {stream : List Record} {origin : Time} {last : Record}
    (starts : StartsAt time origin stream)
    (isLast : last ∈ (accepted time stream).getLast?) :
    ∃ first, (accepted time stream).reverse[(accepted time stream).length - 1]? =
        some first ∧ time first = origin := by
  cases history : accepted time stream with
  | nil => simp [history] at isLast
  | cons first rest =>
      refine ⟨first, by simp, ?_⟩
      apply starts
      rw [← head?_accepted time, history]
      rfl

variable [IsOrderedAddMonoid Time]

theorem finish_lt_finish_iff {first second : Nat}
    (stepPositive : 0 < schedule.step) :
    schedule.finish first < schedule.finish second ↔ first < second := by
  constructor
  · intro before
    by_contra later
    exact absurd before
      (not_lt.mpr (Schedule.finish_mono stepPositive.le (not_lt.mp later)))
  · intro before
    calc schedule.finish first
        < schedule.finish first + schedule.step := lt_add_of_pos_right _ stepPositive
      _ = schedule.finish (first + 1) := (Schedule.finish_succ _ _).symm
      _ ≤ schedule.finish second := Schedule.finish_mono stepPositive.le before

theorem origin_lt_finish (sizePositive : 0 < schedule.size)
    (stepNonneg : 0 ≤ schedule.step) (index : Nat) :
    schedule.origin < schedule.finish index := by
  refine lt_of_lt_of_le ?_ (Schedule.finish_mono stepNonneg (Nat.zero_le index))
  rw [Schedule.finish_eq_start_add, Schedule.start_zero]
  exact lt_add_of_pos_right _ sizePositive

/-- A schedule is more than `bound` windows behind exactly when the stream has
outrun it, from some accepted record to the last one, by more than `bound`
windows. -/
theorem lagsAtMost_iff {stream : List Record} {bound : Nat}
    (starts : StartsAt time schedule.origin stream)
    (sizePositive : 0 < schedule.size) (stepPositive : 0 < schedule.step) :
    LagsAtMost time schedule bound stream ↔ ¬Outruns time schedule bound stream := by
  constructor
  · intro lags outruns
    rcases outruns with ⟨gap, index, earlier, last, isEarlier, isLast, before, passed⟩
    have behind := passed.trans_lt (lags last isLast)
    rw [finish_lt_finish_iff stepPositive, Nat.add_lt_add_iff_right,
      lt_length_windows_iff_reverse starts] at behind
    rcases behind gap (Nat.le_add_left _ _) with ⟨record, isRecord, reached⟩
    rw [isEarlier] at isRecord
    rw [← Option.some.inj isRecord, Nat.add_sub_cancel] at reached
    exact absurd before (not_lt.mpr reached)
  · intro keeps last isLast
    by_contra late
    have notEmitted := Nat.lt_irrefl (windows time schedule stream).length
    rw [lt_length_windows_iff_reverse starts] at notEmitted
    push Not at notEmitted
    rcases notEmitted with ⟨gap, gapLe, missed⟩
    cases reached : (accepted time stream).reverse[gap]? with
    | some earlier =>
        refine keeps ⟨gap, _, earlier, last, reached, isLast, missed earlier reached, ?_⟩
        rw [Nat.sub_add_cancel gapLe]
        exact not_lt.mp late
    | none =>
        -- The window would need more records than there are: the first is too early.
        have short := List.getElem?_eq_none_iff.mp reached
        rw [List.length_reverse] at short
        rcases exists_first starts isLast with ⟨first, isFirst, atOrigin⟩
        have enough : (accepted time stream).length - 1 ≤
            (windows time schedule stream).length := by omega
        refine keeps ⟨_, (windows time schedule stream).length -
          ((accepted time stream).length - 1), first, last, isFirst, isLast, ?_, ?_⟩
        · rw [atOrigin]
          exact origin_lt_finish sizePositive stepPositive.le _
        · rw [Nat.sub_add_cancel enough]
          exact not_lt.mp late

end Prism.SlidingWindow

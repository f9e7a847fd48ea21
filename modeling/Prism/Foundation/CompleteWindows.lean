import Prism.Foundation.NaiveRuns

/-! # Complete windows

A window is complete if it holds everything of its closed interval that the run
accepts, before the window is emitted or after. A run of the naive window misses
exactly the records that arrive at the very end of a window after it was emitted.
-/

namespace Prism.SlidingWindow

variable {Record : Type u} {Time : Type v} [AddCommGroup Time] [LinearOrder Time]
  {time : Record → Time} {schedule : Schedule Time}

variable (time) in
def Emission.within (window : Emission Record Time) (history : List Record) :
    List Record :=
  history.filter fun record =>
    decide (window.start ≤ time record) && decide (time record ≤ window.finish)

theorem emission_complete (history : List Record) (index : Nat) :
    (emission time schedule history index).records =
      (emission time schedule history index).within time history := by
  simp only [emission, Emission.within, Schedule.snapshot, Schedule.decide_covers]

theorem WellFilled.sublist_within {history : List Record} {index : Nat}
    {window : Emission Record Time}
    (filled : WellFilled time schedule history index window) :
    window.records.Sublist (window.within time history) := by
  have inInterval : window.within time window.records = window.records := by
    refine List.filter_eq_self.mpr ?_
    intro record member
    have covered := filled.covered record member
    rw [filled.start, filled.finish]
    simpa [Schedule.Covers] using covered
  rw [← inInterval]
  exact filled.sublist.filter _

/-- A record that arrives after a window was emitted spoils it exactly if it lies
on the window's end. -/
theorem WellFilled.complete_concat_iff [IsOrderedAddMonoid Time]
    (sizeNonneg : 0 ≤ schedule.size) {history : List Record} {index : Nat}
    {window : Emission Record Time}
    (filled : WellFilled time schedule history index window) {record : Record}
    (ended : schedule.finish index ≤ time record) :
    window.records = window.within time (history ++ [record]) ↔
      window.records = window.within time history ∧ window.finish ≠ time record := by
  have startLe : window.start ≤ time record := by
    calc
      window.start = schedule.start index := filled.start
      _ ≤ schedule.start index + schedule.size := le_add_of_nonneg_right sizeNonneg
      _ = schedule.finish index := (schedule.finish_eq_start_add index).symm
      _ ≤ time record := ended
  have split : window.within time (history ++ [record]) =
      window.within time history ++ window.within time [record] :=
    List.filter_append ..
  by_cases atEnd : window.finish = time record
  · have held : window.within time [record] = [record] := by
      simp [Emission.within, startLe, atEnd]
    rw [split, held]
    refine iff_of_false ?_ fun both => both.2 atEnd
    intro complete
    have atMost := filled.sublist_within.length_le
    rw [complete, List.length_append, List.length_singleton] at atMost
    omega
  · have beyond : ¬time record ≤ window.finish := by
      intro upTo
      rw [← filled.finish] at ended
      exact atEnd (ended.antisymm upTo)
    have notHeld : window.within time [record] = [] := by
      simp [Emission.within, beyond]
    rw [split, notHeld, List.append_nil]
    exact (and_iff_left atEnd).symm

/-! ## Complete runs -/

variable (time schedule) in
def Complete (stream : List Record) : Prop :=
  ∀ window ∈ windows time schedule stream,
    window.records = window.within time (accepted time stream)

variable (time schedule) in
def NoneAtEnd (stream : List Record) : Prop :=
  ∀ before record after, stream = before ++ record :: after →
    Admissible time (accepted time before) record →
      ∀ window ∈ windows time schedule before, window.finish ≠ time record

/-- Of the windows emitted so far, only the last one can end at an accepted
record. -/
theorem forall_finish_ne_iff [IsOrderedAddMonoid Time] {stream : List Record}
    {record : Record} (starts : StartsAt time schedule.origin stream)
    (stepPositive : 0 < schedule.step)
    (admissible : Admissible time (accepted time stream) record) :
    (∀ window ∈ windows time schedule stream, window.finish ≠ time record) ↔
      ∀ last, (windows time schedule stream).length = last + 1 →
        schedule.finish last ≠ time record := by
  constructor
  · intro none last isLength
    have inRange : last < (windows time schedule stream).length := by omega
    have isWindow := List.getElem?_eq_getElem inRange
    rw [← (wellFilled_of_getElem? starts isWindow).finish]
    exact none _ (List.mem_of_getElem? isWindow)
  · intro notLast window member
    rcases List.mem_iff_getElem?.mp member with ⟨index, isWindow⟩
    have inRange := (List.getElem?_eq_some_iff.mp isWindow).1
    rcases Nat.exists_eq_add_one_of_ne_zero (Nat.ne_zero_of_lt inRange) with
      ⟨last, isLength⟩
    rw [(wellFilled_of_getElem? starts isWindow).finish]
    have lastInRange : last < (windows time schedule stream).length := by omega
    rcases Nat.lt_or_eq_of_le (show index ≤ last by omega) with earlier | rfl
    · rcases finish_le_last starts lastInRange with ⟨final, isFinal, finishLe⟩
      apply ne_of_lt
      calc
        schedule.finish index < schedule.finish index + schedule.step :=
          lt_add_of_pos_right _ stepPositive
        _ = schedule.finish (index + 1) := (schedule.finish_succ index).symm
        _ ≤ schedule.finish last := Schedule.finish_mono stepPositive.le earlier
        _ ≤ time final := finishLe
        _ ≤ time record := admissible final isFinal
    · exact notLast index isLength

theorem forall_complete_concat_iff [IsOrderedAddMonoid Time] {stream : List Record}
    {record : Record} (starts : StartsAt time schedule.origin stream)
    (sizeNonneg : 0 ≤ schedule.size)
    (admissible : Admissible time (accepted time stream) record) :
    (∀ window ∈ windows time schedule stream,
        window.records = window.within time (accepted time stream ++ [record])) ↔
      Complete time schedule stream ∧
        ∀ window ∈ windows time schedule stream, window.finish ≠ time record := by
  rw [Complete, ← forall₂_and]
  refine forall₂_congr ?_
  intro window member
  rcases List.mem_iff_getElem?.mp member with ⟨index, isWindow⟩
  have inRange := (List.getElem?_eq_some_iff.mp isWindow).1
  rcases finish_le_last starts inRange with ⟨last, isLast, finishLe⟩
  exact (wellFilled_of_getElem? starts isWindow).complete_concat_iff sizeNonneg
    (finishLe.trans (admissible last isLast))

/-- The windows of a run are complete exactly if no record arrives on the end of a
window after it was emitted. -/
theorem complete_iff_noneAtEnd [IsOrderedAddMonoid Time] {stream : List Record}
    (starts : StartsAt time schedule.origin stream)
    (sizeNonneg : 0 ≤ schedule.size) :
    Complete time schedule stream ↔ NoneAtEnd time schedule stream := by
  induction stream using List.reverseRecOn with
  | nil => simp [Complete, NoneAtEnd]
  | append_singleton stream record induction =>
      have split : NoneAtEnd time schedule (stream ++ [record]) ↔ _ :=
        forall_split_concat stream record
      rw [split]
      change _ ↔ NoneAtEnd time schedule stream ∧ _
      rw [← induction starts.of_concat]
      by_cases admissible : Admissible time (accepted time stream) record
      · simp only [admissible, forall_const]
        rw [← forall_complete_concat_iff starts.of_concat sizeNonneg admissible,
          Complete, accepted_concat_of_admissible admissible]
        by_cases due :
            schedule.finish (windows time schedule stream).length ≤ time record
        · rw [windows_concat_of_due starts admissible due, List.forall_mem_append,
            List.forall_mem_singleton]
          exact and_iff_left (emission_complete _ _)
        · rw [windows_concat_of_not_due starts admissible due]
      · have unchanged : Complete time schedule (stream ++ [record]) ↔
            Complete time schedule stream := by
          rw [Complete, Complete, accepted_concat_of_rejected admissible, windows,
            emissions_concat_of_rejected _ _ _ admissible]
        rw [unchanged]
        simp [admissible]

end Prism.SlidingWindow

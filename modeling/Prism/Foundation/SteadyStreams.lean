import Prism.Foundation.CompleteWindows

/-! # Streams in time order

On a stream in time order everything is accepted; if no two records share a time,
every window is complete. How many windows a stream triggers is a question of how
many records come at or after each window's end.
-/

namespace Prism.SlidingWindow

variable {Record : Type u} {Time : Type v} [AddCommGroup Time] [LinearOrder Time]
  {time : Record → Time} {schedule : Schedule Time}

/-! ## Streams that lose nothing -/

omit [AddCommGroup Time] in
theorem accepted_of_inOrder {stream : List Record} (inOrder : InOrder time stream) :
    accepted time stream = stream := by
  induction stream using List.reverseRecOn with
  | nil => rfl
  | append_singleton stream record induction =>
      rcases List.pairwise_append.mp inOrder with ⟨before, _, cross⟩
      have whole := induction before
      have admissible : Admissible time (accepted time stream) record := by
        rw [whole]
        intro last isLast
        exact cross last (List.mem_of_getLast? isLast) record List.mem_cons_self
      rw [accepted_concat_of_admissible admissible, whole]

theorem noneAtEnd_of_strict {stream : List Record}
    (starts : StartsAt time schedule.origin stream)
    (strict : stream.Pairwise fun earlier later => time earlier < time later) :
    NoneAtEnd time schedule stream := by
  intro before record after split admissible window member
  have startsBefore : StartsAt time schedule.origin before := by
    rw [split] at starts
    exact starts.of_append
  rcases List.mem_iff_getElem?.mp member with ⟨index, isWindow⟩
  have inRange := (List.getElem?_eq_some_iff.mp isWindow).1
  rcases finish_le_last startsBefore inRange with ⟨last, isLast, finishLe⟩
  rw [split] at strict
  have inBefore := (accepted_sublist time before).subset (List.mem_of_getLast? isLast)
  have earlier := (List.pairwise_append.mp strict).2.2 last inBefore record
    List.mem_cons_self
  rw [(wellFilled_of_getElem? startsBefore isWindow).finish]
  exact (finishLe.trans_lt earlier).ne

omit [AddCommGroup Time] in
theorem inOrder_of_strict {stream : List Record}
    (strict : stream.Pairwise fun earlier later => time earlier < time later) :
    InOrder time stream :=
  strict.imp le_of_lt

theorem records_of_strict [IsOrderedAddMonoid Time] {stream : List Record}
    (starts : StartsAt time schedule.origin stream) (sizeNonneg : 0 ≤ schedule.size)
    (strict : stream.Pairwise fun earlier later => time earlier < time later)
    {index : Nat} {window : Emission Record Time}
    (isWindow : (windows time schedule stream)[index]? = some window) :
    window.records = schedule.snapshot time stream index := by
  have complete := (complete_iff_noneAtEnd starts sizeNonneg).mpr
    (noneAtEnd_of_strict starts strict) window (List.mem_of_getElem? isWindow)
  have filled := wellFilled_of_getElem? starts isWindow
  rw [complete, accepted_of_inOrder (inOrder_of_strict strict), Emission.within,
    filled.start, filled.finish, Schedule.snapshot]
  simp only [Schedule.decide_covers]

/-! ## How many windows are emitted -/

variable (time schedule) in
def reaching (history : List Record) (index : Nat) : Nat :=
  history.countP fun record => decide (schedule.finish index ≤ time record)

theorem reaching_concat (history : List Record) (record : Record) (index : Nat) :
    reaching time schedule (history ++ [record]) index =
      reaching time schedule history index +
        if schedule.finish index ≤ time record then 1 else 0 := by
  simp [reaching, List.countP_append, List.countP_singleton]

variable (time schedule) in
/-- Each record triggers at most one window, and none before its end: for every
window up to this one there are enough records to trigger those that follow. -/
def IsTriggered (history : List Record) (index : Nat) : Prop :=
  ∀ earlier ≤ index, index - earlier < reaching time schedule history earlier

section Concat

variable [IsOrderedAddMonoid Time] {history : List Record} {record : Record}
  {emitted : Nat}

theorem isTriggered_concat_of_due (stepNonneg : 0 ≤ schedule.step)
    (before : ∀ index, index < emitted ↔ IsTriggered time schedule history index)
    (due : schedule.finish emitted ≤ time record) (index : Nat) :
    IsTriggered time schedule (history ++ [record]) index ↔ index < emitted + 1 := by
  constructor
  · intro triggered
    by_contra beyond
    have notTriggered : ¬IsTriggered time schedule history emitted := by
      rw [← before]
      exact lt_irrefl emitted
    simp only [IsTriggered, not_forall] at notTriggered
    rcases notTriggered with ⟨earlier, earlierLe, few⟩
    have enough := triggered earlier (by omega)
    rw [reaching_concat] at enough
    split at enough <;> omega
  · intro within earlier earlierLe
    have ended : schedule.finish earlier ≤ time record :=
      (Schedule.finish_mono stepNonneg (by omega)).trans due
    rw [reaching_concat, if_pos ended]
    rcases Nat.lt_or_eq_of_le earlierLe with proper | rfl
    · have enough := (before (index - 1)).mp (by omega) earlier (by omega)
      omega
    · omega

theorem isTriggered_concat_of_not_due (stepNonneg : 0 ≤ schedule.step)
    (before : ∀ index, index < emitted ↔ IsTriggered time schedule history index)
    (inOrder : InOrder time (history ++ [record]))
    (notDue : time record < schedule.finish emitted) (index : Nat) :
    IsTriggered time schedule (history ++ [record]) index ↔ index < emitted := by
  constructor
  · intro triggered
    by_contra beyond
    have noneReaches : reaching time schedule (history ++ [record]) index = 0 := by
      rw [reaching, List.countP_eq_zero]
      intro other member
      have atMost : time other ≤ time record := inOrder.le_last member (by simp)
      have ends : schedule.finish emitted ≤ schedule.finish index :=
        Schedule.finish_mono stepNonneg (not_lt.mp beyond)
      simpa using (atMost.trans_lt notDue).trans_le ends
    have enough := triggered index le_rfl
    omega
  · intro within earlier earlierLe
    have enough := (before index).mp within earlier earlierLe
    rw [reaching_concat]
    omega

end Concat

/-- Emission is in order, by the first records that reach the ends of the
windows. -/
theorem lt_length_windows_iff [IsOrderedAddMonoid Time] {stream : List Record}
    (starts : StartsAt time schedule.origin stream) (stepNonneg : 0 ≤ schedule.step)
    (index : Nat) :
    index < (windows time schedule stream).length ↔
      IsTriggered time schedule (accepted time stream) index := by
  induction stream using List.reverseRecOn generalizing index with
  | nil =>
      refine iff_of_false (Nat.not_lt_zero index) ?_
      intro triggered
      exact Nat.not_lt_zero _ (triggered index le_rfl)
  | append_singleton stream record induction =>
      have before := induction starts.of_concat
      by_cases admissible : Admissible time (accepted time stream) record
      · have inOrder := (accepted_inOrder time stream).concat admissible
        rw [accepted_concat_of_admissible admissible]
        by_cases due :
            schedule.finish (windows time schedule stream).length ≤ time record
        · rw [windows_concat_of_due starts admissible due, List.length_append,
            List.length_singleton]
          exact (isTriggered_concat_of_due stepNonneg before due index).symm
        · rw [windows_concat_of_not_due starts admissible due]
          exact (isTriggered_concat_of_not_due stepNonneg before inOrder (not_le.mp due)
            index).symm
      · rw [accepted_concat_of_rejected admissible, windows,
          emissions_concat_of_rejected _ _ _ admissible]
        exact before index

end Prism.SlidingWindow

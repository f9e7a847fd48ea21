import Mathlib.Data.List.Infix
import Prism.Foundation.NaiveRuns

/-! # Windows as stretches of the history

An emitted window is a contiguous stretch of the accepted records. What holds of
neighbours in the history therefore holds of neighbours in the window.
-/

namespace Prism.SlidingWindow

/-! ## Intervals of an ordered history -/

section Ordered

variable {Record : Type u} {Time : Type v} [LinearOrder Time] {time : Record → Time}
  {records : List Record}

theorem InOrder.filter_le_prefix (inOrder : InOrder time records) (finish : Time) :
    records.filter (fun record => decide (time record ≤ finish)) <+: records := by
  induction records with
  | nil => exact List.prefix_rfl
  | cons first rest induction =>
      rcases List.pairwise_cons.mp inOrder with ⟨firstLe, restInOrder⟩
      by_cases early : time first ≤ finish
      · rw [List.filter_cons_of_pos (by simpa using early)]
        exact List.cons_prefix_cons.mpr ⟨rfl, induction restInOrder⟩
      · have none : (first :: rest).filter
            (fun record => decide (time record ≤ finish)) = [] := by
          apply List.filter_eq_nil_iff.mpr
          intro record member
          rcases List.mem_cons.mp member with rfl | inRest
          · simpa using early
          · simpa using (not_le.mp early).trans_le (firstLe record inRest)
        rw [none]
        exact List.nil_prefix

theorem InOrder.filter_infix (inOrder : InOrder time records) (start finish : Time) :
    records.filter (fun record =>
      decide (start ≤ time record) && decide (time record ≤ finish)) <:+: records := by
  induction records with
  | nil => exact List.infix_rfl
  | cons first rest induction =>
      rcases List.pairwise_cons.mp inOrder with ⟨firstLe, restInOrder⟩
      by_cases started : start ≤ time first
      · have sameFilter : (first :: rest).filter (fun record =>
              decide (start ≤ time record) && decide (time record ≤ finish)) =
            (first :: rest).filter fun record => decide (time record ≤ finish) := by
          apply List.filter_congr
          intro record member
          have later : start ≤ time record := by
            rcases List.mem_cons.mp member with rfl | inRest
            · exact started
            · exact started.trans (firstLe record inRest)
          simp [later]
        rw [sameFilter]
        exact (inOrder.filter_le_prefix finish).isInfix
      · rw [List.filter_cons_of_neg (by simp [started])]
        exact (induction restInOrder).trans (List.suffix_cons first rest).isInfix

end Ordered

/-! ## Emitted windows -/

variable {Record : Type u} {Time : Type v} [AddCommGroup Time] [LinearOrder Time]

def inside (time : Record → Time) (schedule : Schedule Time) (index : Nat)
    (records : List Record) : List Record :=
  records.filter fun record =>
    decide (schedule.start index ≤ time record) &&
      decide (time record < schedule.finish index)

variable {time : Record → Time} {schedule : Schedule Time}

/-- The window is a stretch of the history that holds, each as often as it
arrived, all records strictly before its end. -/
structure IsStretch (time : Record → Time) (schedule : Schedule Time)
    (history : List Record) (index : Nat) (window : Emission Record Time) : Prop where
  isInfix : window.records <:+: history
  inside : (inside time schedule index history).Sublist window.records

theorem emission_isStretch {history : List Record} (inOrder : InOrder time history)
    (index : Nat) :
    IsStretch time schedule history index (emission time schedule history index) where
  isInfix := by
    simp only [emission, Schedule.snapshot, Schedule.decide_covers]
    exact inOrder.filter_infix _ _
  inside := by
    simp only [emission, Schedule.snapshot, Schedule.decide_covers, inside]
    apply List.monotone_filter_right
    intro record strictly
    simp only [Bool.and_eq_true, decide_eq_true_iff] at strictly ⊢
    exact ⟨strictly.1, strictly.2.le⟩

theorem IsStretch.concat {history : List Record} {index : Nat}
    {window : Emission Record Time}
    (stretch : IsStretch time schedule history index window) {record : Record}
    (ended : schedule.finish index ≤ time record) :
    IsStretch time schedule (history ++ [record]) index window where
  isInfix := stretch.isInfix.trans (List.prefix_append _ _).isInfix
  inside := by
    have outside : SlidingWindow.inside time schedule index [record] = [] := by
      simp [SlidingWindow.inside, not_lt.mpr ended]
    have same : SlidingWindow.inside time schedule index (history ++ [record]) =
        SlidingWindow.inside time schedule index history := by
      rw [SlidingWindow.inside, List.filter_append]
      exact (congrArg _ outside).trans (List.append_nil _)
    rw [same]
    exact stretch.inside

theorem isStretch_of_getElem? {stream : List Record}
    (starts : StartsAt time schedule.origin stream) {index : Nat}
    {window : Emission Record Time}
    (emitted : (windows time schedule stream)[index]? = some window) :
    IsStretch time schedule (accepted time stream) index window := by
  induction stream using List.reverseRecOn with
  | nil => simp at emitted
  | append_singleton stream record induction =>
      by_cases admissible : Admissible time (accepted time stream) record
      · have inOrder := accepted_inOrder time (stream ++ [record])
        rw [accepted_concat_of_admissible admissible] at inOrder ⊢
        have earlier : (windows time schedule stream)[index]? = some window →
            IsStretch time schedule (accepted time stream ++ [record]) index
              window := by
          intro before
          have inRange := (List.getElem?_eq_some_iff.mp before).1
          rcases finish_le_last starts.of_concat inRange with
            ⟨last, isLast, finishLe⟩
          exact (induction starts.of_concat before).concat
            (finishLe.trans (admissible last isLast))
        by_cases due :
            schedule.finish (windows time schedule stream).length ≤ time record
        · rw [windows_concat_of_due starts admissible due, List.getElem?_append]
            at emitted
          split at emitted
          · exact earlier emitted
          · rw [List.getElem?_singleton] at emitted
            split at emitted
            · have isNew : index = (windows time schedule stream).length := by omega
              rw [← Option.some.inj emitted, isNew]
              exact emission_isStretch inOrder _
            · cases emitted
        · rw [windows_concat_of_not_due starts admissible due] at emitted
          exact earlier emitted
      · rw [accepted_concat_of_rejected admissible]
        rw [windows, emissions_concat_of_rejected _ _ _ admissible] at emitted
        exact induction starts.of_concat emitted

/-! ## Counting in a stretch -/

/-- Where of any two neighbours one has the property, about half of the elements
have it. -/
theorem length_le_two_mul_countP {Element : Type u} {holds : Element → Bool}
    {elements : List Element}
    (chain : elements.IsChain fun earlier later => holds earlier ∨ holds later) :
    elements.length ≤ 2 * elements.countP holds + 1 := by
  induction elements using List.twoStepInduction with
  | nil => exact Nat.zero_le _
  | singleton element => simp
  | cons_cons first second rest induction _ =>
      rw [List.isChain_cons_cons] at chain
      have fewer := induction chain.2.tail
      have oneHolds : 0 < [first, second].countP holds := by
        apply List.countP_pos_iff.mpr
        rcases chain.1 with firstHolds | secondHolds
        · exact ⟨first, by simp, firstHolds⟩
        · exact ⟨second, by simp, secondHolds⟩
      change rest.length + 1 + 1 ≤ 2 * ([first, second] ++ rest).countP holds + 1
      rw [List.countP_append]
      omega

end Prism.SlidingWindow

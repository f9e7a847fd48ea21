import Mathlib.Algebra.Order.Group.Defs
import Mathlib.Algebra.Order.Monoid.Unbundled.Pow
import Mathlib.Data.List.Induction
import Mathlib.Data.List.ReduceOption
import Prism.Foundation.Machine

/-! # Sliding windows over a stream of timed records

The naive sliding window keeps every record it has accepted and looks through
all of them whenever a window is due. It says what a sliding window is for; an
implementation that forgets old records has to agree with it.
-/

namespace Prism.SlidingWindow

/-! ## Records in time order -/

section Order

variable {Record : Type u} {Time : Type v} [LinearOrder Time]

def InOrder (time : Record → Time) (records : List Record) : Prop :=
  records.Pairwise fun earlier later => time earlier ≤ time later

/-- Dropping old records from the front of an ordered list drops all of them. -/
theorem dropWhile_eq_filter {time : Record → Time} {records : List Record}
    (inOrder : InOrder time records) (bound : Time) :
    records.dropWhile (fun record => decide (time record < bound)) =
      records.filter (fun record => decide (bound ≤ time record)) := by
  induction records with
  | nil => rfl
  | cons head tail induction =>
      rcases List.pairwise_cons.mp inOrder with ⟨headLe, tailInOrder⟩
      by_cases old : time head < bound
      · rw [List.dropWhile_cons_of_pos (by simpa using old),
          List.filter_cons_of_neg (by simpa using old)]
        exact induction tailInOrder
      · have keep : bound ≤ time head := not_lt.mp old
        rw [List.dropWhile_cons_of_neg (by simpa using keep)]
        refine (List.filter_eq_self.mpr ?_).symm
        intro record member
        rcases List.mem_cons.mp member with rfl | member
        · simpa using keep
        · simpa using keep.trans (headLe record member)

def Admissible (time : Record → Time) (history : List Record)
    (record : Record) : Prop :=
  ∀ last ∈ history.getLast?, time last ≤ time record

instance (time : Record → Time) (history : List Record) (record : Record) :
    Decidable (Admissible time history record) :=
  inferInstanceAs (Decidable (∀ last ∈ history.getLast?, _))

def extend (time : Record → Time) (history : List Record) (record : Record) :
    List Record :=
  if Admissible time history record then history ++ [record] else history

/-- The records of a stream that are not older than the previous accepted one. -/
def accepted (time : Record → Time) (stream : List Record) : List Record :=
  stream.foldl (extend time) []

@[simp] theorem accepted_nil (time : Record → Time) :
    accepted time ([] : List Record) = [] := rfl

theorem accepted_concat (time : Record → Time) (stream : List Record)
    (record : Record) :
    accepted time (stream ++ [record]) =
      extend time (accepted time stream) record := by
  simp [accepted, List.foldl_append]

theorem accepted_concat_of_admissible {time : Record → Time} {stream : List Record}
    {record : Record}
    (admissible : Admissible time (accepted time stream) record) :
    accepted time (stream ++ [record]) = accepted time stream ++ [record] := by
  rw [accepted_concat, extend, if_pos admissible]

theorem accepted_concat_of_rejected {time : Record → Time} {stream : List Record}
    {record : Record}
    (rejected : ¬Admissible time (accepted time stream) record) :
    accepted time (stream ++ [record]) = accepted time stream := by
  rw [accepted_concat, extend, if_neg rejected]

theorem accepted_sublist (time : Record → Time) (stream : List Record) :
    (accepted time stream).Sublist stream := by
  induction stream using List.reverseRecOn with
  | nil => exact .slnil
  | append_singleton stream record induction =>
      by_cases admissible : Admissible time (accepted time stream) record
      · rw [accepted_concat_of_admissible admissible]
        exact induction.append (.refl [record])
      · rw [accepted_concat_of_rejected admissible]
        exact induction.trans (List.sublist_append_left stream [record])

theorem map_accepted {Record' : Type u'} {time : Record → Time}
    {time' : Record' → Time} (transform : Record → Record')
    (sameTime : ∀ record, time' (transform record) = time record)
    (stream : List Record) :
    accepted time' (stream.map transform) =
      (accepted time stream).map transform := by
  induction stream using List.reverseRecOn with
  | nil => rfl
  | append_singleton stream record induction =>
      have admissibleIff :
          Admissible time' ((accepted time stream).map transform)
              (transform record) ↔
            Admissible time (accepted time stream) record := by
        simp [Admissible, sameTime]
      rw [List.map_append, List.map_singleton, accepted_concat, accepted_concat,
        induction, extend, extend]
      simp only [admissibleIff]
      split <;> simp

theorem head?_accepted (time : Record → Time) (stream : List Record) :
    (accepted time stream).head? = stream.head? := by
  induction stream using List.reverseRecOn with
  | nil => rfl
  | append_singleton stream record induction =>
      rw [accepted_concat, extend]
      cases history : accepted time stream with
      | nil =>
          rw [history] at induction
          have empty : stream = [] := List.head?_eq_none_iff.mp induction.symm
          simp [empty, Admissible]
      | cons first rest =>
          rw [history] at induction
          have nonempty : stream.head? = some first := induction.symm
          split <;> simp [List.head?_append, nonempty]

theorem InOrder.le_last {time : Record → Time} {history : List Record}
    (inOrder : InOrder time history) {record last : Record}
    (member : record ∈ history) (isLast : last ∈ history.getLast?) :
    time record ≤ time last := by
  rcases List.mem_getLast?_eq_getLast isLast with ⟨nonempty, rfl⟩
  rw [← List.dropLast_append_getLast nonempty] at member inOrder
  rcases List.mem_append.mp member with member | member
  · exact (List.pairwise_append.mp inOrder).2.2 record member _ (by simp)
  · rw [List.mem_singleton.mp member]

theorem InOrder.concat {time : Record → Time} {history : List Record}
    (inOrder : InOrder time history) {record : Record}
    (admissible : Admissible time history record) :
    InOrder time (history ++ [record]) := by
  refine List.pairwise_append.mpr ⟨inOrder, List.pairwise_singleton _ _, ?_⟩
  intro earlier member later isRecord
  rw [List.mem_singleton.mp isRecord]
  have nonempty : history ≠ [] := List.ne_nil_of_mem member
  have isLast : history.getLast nonempty ∈ history.getLast? := by
    rw [List.getLast?_eq_getLast_of_ne_nil nonempty]
    rfl
  exact (inOrder.le_last member isLast).trans (admissible _ isLast)

theorem InOrder.extend {time : Record → Time} {history : List Record}
    (inOrder : InOrder time history) (record : Record) :
    InOrder time (extend time history record) := by
  unfold SlidingWindow.extend
  split
  · exact inOrder.concat ‹_›
  · exact inOrder

theorem accepted_inOrder (time : Record → Time) (stream : List Record) :
    InOrder time (accepted time stream) := by
  induction stream using List.reverseRecOn with
  | nil => exact .nil
  | append_singleton stream record induction =>
      rw [accepted_concat]
      exact induction.extend record

theorem exists_accepted_ge {time : Record → Time} {stream : List Record}
    {record : Record} (member : record ∈ stream) :
    ∃ later ∈ accepted time stream, time record ≤ time later := by
  induction stream using List.reverseRecOn with
  | nil => cases member
  | append_singleton stream newest induction =>
      by_cases admissible : Admissible time (accepted time stream) newest
      · rw [accepted_concat_of_admissible admissible]
        rcases List.mem_append.mp member with earlier | isNewest
        · rcases induction earlier with ⟨later, isLater, le⟩
          exact ⟨later, List.mem_append_left _ isLater, le⟩
        · rw [List.mem_singleton.mp isNewest]
          exact ⟨newest, List.mem_append_right _ (List.mem_singleton_self _), le_rfl⟩
      · rw [accepted_concat_of_rejected admissible]
        rcases List.mem_append.mp member with earlier | isNewest
        · exact induction earlier
        · rw [List.mem_singleton.mp isNewest]
          unfold Admissible at admissible
          push Not at admissible
          rcases admissible with ⟨last, isLast, newer⟩
          exact ⟨last, List.mem_of_getLast? isLast, newer.le⟩

end Order

/-! ## The emission schedule -/

/-- The first record's time, the length of a window and the distance between
the starts of two consecutive windows. -/
structure Schedule (Time : Type v) where
  origin : Time
  size : Time
  step : Time

namespace Schedule

variable {Time : Type v} [AddCommGroup Time]

def start (schedule : Schedule Time) (index : Nat) : Time :=
  schedule.origin + index • schedule.step

def finish (schedule : Schedule Time) (index : Nat) : Time :=
  schedule.origin + schedule.size + index • schedule.step

theorem finish_eq_start_add (schedule : Schedule Time) (index : Nat) :
    schedule.finish index = schedule.start index + schedule.size := by
  rw [finish, start, add_right_comm]

theorem start_eq_finish_sub (schedule : Schedule Time) (index : Nat) :
    schedule.start index = schedule.finish index - schedule.size := by
  rw [finish_eq_start_add, add_sub_cancel_right]

@[simp] theorem start_zero (schedule : Schedule Time) :
    schedule.start 0 = schedule.origin := by
  simp [start]

theorem start_succ (schedule : Schedule Time) (index : Nat) :
    schedule.start (index + 1) = schedule.start index + schedule.step := by
  rw [start, start, succ_nsmul, add_assoc]

theorem finish_succ (schedule : Schedule Time) (index : Nat) :
    schedule.finish (index + 1) = schedule.finish index + schedule.step := by
  rw [finish, finish, succ_nsmul, ← add_assoc]

variable [LinearOrder Time]

/-- Windows are closed at both ends. -/
def Covers (schedule : Schedule Time) (index : Nat) (time : Time) : Prop :=
  schedule.start index ≤ time ∧ time ≤ schedule.finish index

instance (schedule : Schedule Time) (index : Nat) (time : Time) :
    Decidable (schedule.Covers index time) :=
  inferInstanceAs (Decidable (_ ∧ _))

theorem decide_covers (schedule : Schedule Time) (index : Nat) (time : Time) :
    decide (schedule.Covers index time) =
      (decide (schedule.start index ≤ time) &&
        decide (time ≤ schedule.finish index)) := by
  rw [Bool.eq_iff_iff, Bool.and_eq_true, decide_eq_true_iff,
    decide_eq_true_iff, decide_eq_true_iff]
  rfl

def snapshot (schedule : Schedule Time) (time : Record → Time)
    (records : List Record) (index : Nat) : List Record :=
  records.filter fun record => decide (schedule.Covers index (time record))

theorem snapshot_filter_start (schedule : Schedule Time) (time : Record → Time)
    (records : List Record) (index : Nat) :
    schedule.snapshot time
        (records.filter fun record => decide (schedule.start index ≤ time record))
        index =
      schedule.snapshot time records index := by
  rw [snapshot, snapshot, List.filter_filter]
  refine List.filter_congr ?_
  intro record _
  by_cases started : schedule.start index ≤ time record <;>
    simp [Covers, started]

variable [IsOrderedAddMonoid Time]

theorem start_mono {schedule : Schedule Time} (stepNonneg : 0 ≤ schedule.step)
    {first second : Nat} (le : first ≤ second) :
    schedule.start first ≤ schedule.start second :=
  add_le_add_right (nsmul_le_nsmul_left stepNonneg le) _

theorem finish_mono {schedule : Schedule Time} (stepNonneg : 0 ≤ schedule.step)
    {first second : Nat} (le : first ≤ second) :
    schedule.finish first ≤ schedule.finish second :=
  add_le_add_right (nsmul_le_nsmul_left stepNonneg le) _

/-- With windows at least one step long, a time before some window's end lies in
a window that ends strictly after it. -/
theorem exists_window {schedule : Schedule Time}
    (stepLeSize : schedule.step ≤ schedule.size) {time : Time}
    (sinceOrigin : schedule.origin ≤ time) {last : Nat}
    (beforeLast : time < schedule.finish last) :
    ∃ index ≤ last, schedule.start index ≤ time ∧ time < schedule.finish index := by
  induction last with
  | zero => exact ⟨0, le_rfl, by simpa using sinceOrigin, beforeLast⟩
  | succ last induction =>
      by_cases earlier : time < schedule.finish last
      · rcases induction earlier with ⟨index, indexLe, covers⟩
        exact ⟨index, indexLe.trans (Nat.le_succ last), covers⟩
      · refine ⟨last + 1, le_rfl, ?_, beforeLast⟩
        calc
          schedule.start (last + 1) = schedule.start last + schedule.step :=
            schedule.start_succ last
          _ ≤ schedule.start last + schedule.size := add_le_add_right stepLeSize _
          _ = schedule.finish last := (schedule.finish_eq_start_add last).symm
          _ ≤ time := not_lt.mp earlier

theorem nsmul_step_le_size {schedule : Schedule Time} {first gap : Nat}
    {time : Time} (ended : time ≤ schedule.finish first)
    (started : schedule.start (first + gap) ≤ time) :
    gap • schedule.step ≤ schedule.size := by
  have le : schedule.start (first + gap) ≤ schedule.finish first :=
    started.trans ended
  rw [start, add_nsmul, ← add_assoc, ← start, finish_eq_start_add] at le
  exact le_of_add_le_add_left le

end Schedule

/-! ## The naive window -/

section Naive

variable {Record : Type u} {Time : Type v} [AddCommGroup Time] [LinearOrder Time]

/-- Everything accepted so far and the number of windows emitted so far. -/
structure Naive (Record : Type u) where
  history : List Record
  emitted : Nat

structure Emission (Record : Type u) (Time : Type v) where
  start : Time
  finish : Time
  records : List Record

/-- The schedule of a run whose history so far is given: its origin is the time
of the first record, which is the current one when there is none before it. -/
def scheduleOf (time : Record → Time) (size step : Time) (history : List Record)
    (record : Record) : Schedule Time :=
  ⟨time (history.headD record), size, step⟩

def emission (time : Record → Time) (schedule : Schedule Time)
    (history : List Record) (index : Nat) : Emission Record Time where
  start := schedule.start index
  finish := schedule.finish index
  records := schedule.snapshot time history index

/-- Accept what is not older than the last accepted record; emit the next window
when the accepted record reaches its end. -/
def naive (time : Record → Time) (size step : Time) :
    Machine (Naive Record) Record (Option (Emission Record Time)) where
  step state record :=
    if Admissible time state.history record then
      let schedule := scheduleOf time size step state.history record
      let history := state.history ++ [record]
      if schedule.finish state.emitted ≤ time record then
        (⟨history, state.emitted + 1⟩,
          some (emission time schedule history state.emitted))
      else
        (⟨history, state.emitted⟩, none)
    else
      (state, none)

variable (time : Record → Time) (size step : Time)

theorem naive_history (stream : List Record) :
    ((naive time size step).finalState ⟨[], 0⟩ stream).history =
      accepted time stream := by
  induction stream using List.reverseRecOn with
  | nil => rfl
  | append_singleton stream record induction =>
      rw [Machine.finalState_append, accepted_concat, ← induction]
      simp only [Machine.finalState_cons, Machine.finalState_nil, naive, extend]
      split
      · split <;> rfl
      · rfl

theorem naive_emitted (stream : List Record) :
    ((naive time size step).finalState ⟨[], 0⟩ stream).emitted =
      ((naive time size step).outputs ⟨[], 0⟩ stream).reduceOption.length := by
  induction stream using List.reverseRecOn with
  | nil => rfl
  | append_singleton stream record induction =>
      rw [Machine.finalState_append, Machine.outputs_append,
        List.reduceOption_append, List.length_append, ← induction]
      simp only [Machine.finalState_cons, Machine.finalState_nil,
        Machine.outputs_cons, Machine.outputs_nil, naive]
      split
      · split <;> rfl
      · rfl

end Naive

end Prism.SlidingWindow

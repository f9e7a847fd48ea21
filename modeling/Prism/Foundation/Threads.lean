import Mathlib.Data.List.Induction
import Prism.Foundation.Machine

/-! # Threads

Items of several threads that are interleaved in one sequence. A machine that
answers each item from the earlier items of its own thread answers a thread as if
it were alone.
-/

namespace Prism.Threads

variable {Item : Type u} {Thread : Type v} [DecidableEq Thread]

def thread (threadOf : Item → Thread) (id : Thread) (items : List Item) : List Item :=
  items.filter fun item => threadOf item = id

def opener (threadOf : Item → Thread) (id : Thread) (items : List Item) : Option Item :=
  (thread threadOf id items).head?

def latest (threadOf : Item → Thread) (id : Thread) (items : List Item) : Option Item :=
  (thread threadOf id items).getLast?

variable {threadOf : Item → Thread} {id : Thread} {items : List Item} {item : Item}

theorem mem_thread_iff :
    item ∈ thread threadOf id items ↔ item ∈ items ∧ threadOf item = id := by
  rw [thread, List.mem_filter, decide_eq_true_iff]

theorem thread_append (first second : List Item) :
    thread threadOf id (first ++ second) =
      thread threadOf id first ++ thread threadOf id second :=
  List.filter_append _ _

theorem thread_thread :
    thread threadOf id (thread threadOf id items) = thread threadOf id items := by
  rw [thread, thread, List.filter_filter]
  simp only [Bool.and_self]

theorem thread_concat_self (items : List Item) (item : Item) :
    thread threadOf (threadOf item) (items ++ [item]) =
      thread threadOf (threadOf item) items ++ [item] := by
  simp [thread]

theorem thread_concat_of_ne (other : threadOf item ≠ id) (items : List Item) :
    thread threadOf id (items ++ [item]) = thread threadOf id items := by
  simp [thread, other]

/-! ## The opener and the latest item -/

theorem opener_eq_find? (threadOf : Item → Thread) (id : Thread) (items : List Item) :
    opener threadOf id items = items.find? fun item => threadOf item = id :=
  List.head?_filter

theorem threadOf_opener (isOpener : item ∈ opener threadOf id items) :
    threadOf item = id :=
  (mem_thread_iff.mp (List.mem_of_mem_head? isOpener)).2

theorem opener_append (first second : List Item) :
    opener threadOf id (first ++ second) =
      (opener threadOf id first).or (opener threadOf id second) := by
  rw [opener, thread_append, List.head?_append]
  rfl

theorem opener_concat_self (items : List Item) (item : Item) :
    opener threadOf (threadOf item) (items ++ [item]) =
      some ((opener threadOf (threadOf item) items).getD item) := by
  rw [opener, thread_concat_self, List.head?_append, opener]
  cases (thread threadOf (threadOf item) items).head? <;> rfl

theorem opener_concat_of_ne (other : threadOf item ≠ id) (items : List Item) :
    opener threadOf id (items ++ [item]) = opener threadOf id items := by
  rw [opener, thread_concat_of_ne other, opener]

theorem opener_of_getElem? {index : Nat} (isItem : items[index]? = some item) :
    opener threadOf (threadOf item) items =
      some ((opener threadOf (threadOf item) (items.take index)).getD item) := by
  have upTo : items.take (index + 1) = items.take index ++ [item] := by
    rw [List.take_add_one, isItem]
    rfl
  rw [← List.take_append_drop (index + 1) items, opener_append, upTo,
    opener_concat_self, Option.some_or, ← upTo, List.take_append_drop]

theorem isSome_opener_iff :
    (opener threadOf id items).isSome = true ↔ ∃ item ∈ items, threadOf item = id := by
  rw [opener_eq_find?, List.find?_isSome]
  simp only [decide_eq_true_iff]

theorem isSome_latest : (latest threadOf id items).isSome =
    (opener threadOf id items).isSome := by
  rw [latest, opener]
  cases thread threadOf id items with
  | nil => rfl
  | cons first rest =>
      rw [List.getLast?_cons, List.head?_cons]
      rfl

theorem latest_concat_self (items : List Item) (item : Item) :
    latest threadOf (threadOf item) (items ++ [item]) = some item := by
  rw [latest, thread_concat_self, List.getLast?_concat]

theorem latest_concat_of_ne (other : threadOf item ≠ id) (items : List Item) :
    latest threadOf id (items ++ [item]) = latest threadOf id items := by
  rw [latest, thread_concat_of_ne other, latest]

/-! ## Answers from the thread alone -/

variable {State : Type w} {Answer : Type x}

def answersTo (threadOf : Item → Thread) (id : Thread) (items : List Item)
    (answers : List Answer) : List Answer :=
  ((items.zip answers).filter fun answered => threadOf answered.1 = id).map Prod.snd

/-- After every history, an item is answered from the part of the history that
belongs to its thread. -/
def AnswersByThread (threadOf : Item → Thread) (machine : Machine State Item Answer)
    (initial : State) (respond : List Item → Item → Answer) : Prop :=
  ∀ history item, (machine.step (machine.finalState initial history) item).2 =
    respond (thread threadOf (threadOf item) history) item

variable {machine : Machine State Item Answer} {initial : State}
  {respond : List Item → Item → Answer}

/-- The answers to a thread among others are the ones to the thread alone. -/
theorem answersTo_outputs
    (byThread : AnswersByThread threadOf machine initial respond) (id : Thread)
    (items : List Item) :
    answersTo threadOf id items (machine.outputs initial items) =
      machine.outputs initial (thread threadOf id items) := by
  induction items using List.reverseRecOn with
  | nil => rfl
  | append_singleton items item induction =>
      have sameLength := (machine.length_outputs initial items).symm
      rw [Machine.outputs_append, answersTo, List.zip_append sameLength,
        List.filter_append, List.map_append]
      change answersTo threadOf id items _ ++ _ = _
      rw [induction]
      by_cases belongs : threadOf item = id
      · subst id
        have sameAnswer := (byThread items item).trans
          (congrArg (respond · item) thread_thread.symm)
        rw [thread_concat_self, Machine.outputs_append, Machine.outputs_cons,
          Machine.outputs_cons, sameAnswer, byThread (thread threadOf _ items) item]
        simp
      · rw [thread_concat_of_ne belongs]
        simp [belongs]

theorem answersTo_congr (byThread : AnswersByThread threadOf machine initial respond)
    {items items' : List Item}
    (sameThread : thread threadOf id items = thread threadOf id items') :
    answersTo threadOf id items (machine.outputs initial items) =
      answersTo threadOf id items' (machine.outputs initial items') := by
  rw [answersTo_outputs byThread, answersTo_outputs byThread, sameThread]

end Prism.Threads

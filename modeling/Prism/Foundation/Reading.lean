import Mathlib.Control.Monad.Writer
import Mathlib.Data.List.Range

/-! # Computations that read a memory

A writer of indexes. What such a computation reads can be bounded piece by
piece, along its binds.
-/

namespace Prism

/-- A computation together with the indexes of the bytes it reads. -/
abbrev Reading := Writer (List Nat)

namespace Reading

def value (reading : Reading α) : α := reading.run.1

def indexes (reading : Reading α) : List Nat := reading.run.2

def byte (memory : Nat → UInt8) (index : Nat) : Reading UInt8 := do
  tell [index]
  return memory index

/-- Read the bytes from `first` up to but not including `last`. -/
def range (memory : Nat → UInt8) (first last : Nat) : Reading (List UInt8) := do
  let indexes := List.range' first (last - first)
  tell indexes
  return indexes.map memory

@[simp] theorem value_pure (result : α) :
    (pure result : Reading α).value = result := rfl

@[simp] theorem value_bind (reading : Reading α) (next : α → Reading β) :
    (reading >>= next).value = (next reading.value).value := rfl

@[simp] theorem value_byte (memory : Nat → UInt8) (index : Nat) :
    (byte memory index).value = memory index := rfl

@[simp] theorem value_range (memory : Nat → UInt8) (first last : Nat) :
    (range memory first last).value =
      (List.range' first (last - first)).map memory := rfl

theorem value_byte_bind (memory : Nat → UInt8) (index : Nat)
    (next : UInt8 → Reading α) :
    (byte memory index >>= next).value = (next (memory index)).value := rfl

/-! ## Bounds on what is read -/

def Within (bound : Nat) (reading : Reading α) : Prop :=
  ∀ index ∈ reading.indexes, index < bound

@[simp] theorem within_pure (bound : Nat) (result : α) :
    Within bound (pure result) := by
  intro index member
  cases member

theorem within_bind (bound : Nat) (reading : Reading α) (next : α → Reading β) :
    Within bound (reading >>= next) ↔
      Within bound reading ∧ Within bound (next reading.value) :=
  List.forall_mem_append

@[simp] theorem within_byte (bound : Nat) (memory : Nat → UInt8) (index : Nat) :
    Within bound (byte memory index) ↔ index < bound :=
  List.forall_mem_singleton

@[simp] theorem within_range (bound : Nat) (memory : Nat → UInt8) (first last : Nat) :
    Within bound (range memory first last) ↔ (first < last → last ≤ bound) := by
  have indexes : (range memory first last).indexes = List.range' first (last - first) :=
    List.append_nil _
  unfold Within
  rw [indexes]
  simp only [List.mem_range'_1]
  constructor
  · intro below proper
    have lastRead := below (last - 1) (by omega)
    omega
  · intro fits index inRange
    have atMost := fits (by omega)
    omega

theorem within_byte_bind (bound : Nat) (memory : Nat → UInt8) (index : Nat)
    (next : UInt8 → Reading α) :
    Within bound (byte memory index >>= next) ↔
      index < bound ∧ Within bound (next (memory index)) := by
  rw [within_bind, within_byte, value_byte]

theorem within_range_bind (bound : Nat) (memory : Nat → UInt8) (first last : Nat)
    (next : List UInt8 → Reading α) :
    Within bound (range memory first last >>= next) ↔
      (first < last → last ≤ bound) ∧
        Within bound (next ((List.range' first (last - first)).map memory)) := by
  rw [within_bind, within_range, value_range]

end Reading

end Prism

import Mathlib.Data.List.Range

/-! # Bytes in a memory

That a memory holds given bytes from an index on, and what follows for parts of them.
-/

namespace Prism

variable {Byte : Type u}

def HoldsAt (memory : Nat → Byte) (start : Nat) (bytes : List Byte) : Prop :=
  (List.range' start bytes.length).map memory = bytes

namespace HoldsAt

variable {memory : Nat → Byte} {start : Nat} {bytes first second : List Byte}

theorem map_range' (holds : HoldsAt memory start bytes) {count : Nat}
    (length : bytes.length = count) :
    (List.range' start count).map memory = bytes := by
  subst length
  exact holds

theorem append_iff :
    HoldsAt memory start (first ++ second) ↔
      HoldsAt memory start first ∧ HoldsAt memory (start + first.length) second := by
  have split : List.range' start (first.length + second.length) =
      List.range' start first.length ++
        List.range' (start + first.length) second.length := by
    rw [List.range'_append_1]
  unfold HoldsAt
  rw [List.length_append, split, List.map_append]
  constructor
  · intro equal
    exact List.append_inj equal (by simp)
  · rintro ⟨equalFirst, equalSecond⟩
    rw [equalFirst, equalSecond]

theorem left (holds : HoldsAt memory start (first ++ second)) :
    HoldsAt memory start first :=
  (append_iff.mp holds).1

theorem right (holds : HoldsAt memory start (first ++ second)) :
    HoldsAt memory (start + first.length) second :=
  (append_iff.mp holds).2

theorem getElem (holds : HoldsAt memory start bytes) (index : Nat)
    (inside : index < bytes.length) : memory (start + index) = bytes[index] := by
  have equal := List.getElem_of_eq holds.symm inside
  rw [equal]
  simp

theorem getD (bytes : List Byte) (default : Byte) :
    HoldsAt (fun index => bytes.getD index default) 0 bytes := by
  apply List.ext_getElem
  · simp
  · intro index inRange inside
    simp [List.getD, inside]

end HoldsAt

end Prism

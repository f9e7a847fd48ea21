import Mathlib.Data.List.Basic

/-! # Reading texts back

What can be taken out of a text that was put together from parts: what follows a fixed
beginning, a field up to a separator, and an ending out of a list of known ones.
-/

namespace Prism.Texts

variable {α : Type u} [DecidableEq α]

theorem dropPrefix?_append (start rest : List α) :
    (start ++ rest).dropPrefix? start = some rest :=
  List.dropPrefix?_eq_some_iff.mpr ⟨start, rfl, by simp⟩

theorem dropPrefix?_eq_none {start text : List α} (different : ¬start <+: text) :
    text.dropPrefix? start = none := by
  rw [Option.eq_none_iff_forall_not_mem]
  intro rest isRest
  rcases List.dropPrefix?_eq_some_iff.mp isRest with ⟨same, rfl, equal⟩
  rw [beq_iff_eq] at equal
  exact different (equal ▸ List.prefix_append same rest)

theorem takeWhile_field {separator : α} {field : List α} (noSeparator : separator ∉ field)
    (rest : List α) :
    (field ++ separator :: rest).takeWhile (fun next => next != separator) = field := by
  have within : ∀ next ∈ field, (next != separator) = true := by
    intro next member
    rw [bne_iff_ne]
    rintro rfl
    exact noSeparator member
  rw [List.takeWhile_append_of_pos within, List.takeWhile_cons_of_neg (by simp),
    List.append_nil]

def findEnding (endings : List (List α)) (text : List α) : Option (List α) :=
  endings.find? fun ending => ending.isSuffixOf text

/-- Among endings of which none ends with another, a text has only one. -/
theorem findEnding_append {endings : List (List α)}
    (unambiguous : ∀ first ∈ endings, ∀ second ∈ endings, first <:+ second →
      first = second)
    {ending : List α} (member : ending ∈ endings) (front : List α) :
    findEnding endings (front ++ ending) = some ending := by
  have isEnding : ending <:+ front ++ ending := List.suffix_append front ending
  unfold findEnding
  cases found : endings.find? fun other => other.isSuffixOf (front ++ ending) with
  | none =>
      have noEnding := List.find?_eq_none.mp found ending member
      exact absurd (List.isSuffixOf_iff_suffix.mpr isEnding) noEnding
  | some other =>
      have holds : other.isSuffixOf (front ++ ending) = true := by
        simpa using List.find?_some found
      have isOther := List.isSuffixOf_iff_suffix.mp holds
      have otherMember : other ∈ endings := List.mem_of_find?_eq_some found
      rcases List.suffix_or_suffix_of_suffix isOther isEnding with shorter | longer
      · rw [unambiguous other otherMember ending member shorter]
      · rw [unambiguous ending member other otherMember longer]

end Prism.Texts

import Prism.Utils.FuzzyLabels

/-! # The progress bar

`getProgressBar` draws a probability as a row of cells. The cells that are filled
determine the label.
-/

namespace Prism.Utils

/-- The conversion `static_cast<int>`. -/
class Truncating (Double : Type) where
  toInt : Double → Int

instance : Truncating Float where
  toInt value := value.toInt32.toInt

noncomputable instance : Truncating ℝ where
  toInt value := if 0 ≤ value then ⌊value⌋ else ⌈value⌉

section Bar

variable {Double : Type} [DoubleArithmetic Double] [Truncating Double]

def fill (p : Double) (width : Int) : Int :=
  let fill := Truncating.toInt (p * DoubleArithmetic.ofInt width)
  let fill := if fill > width then width else fill
  if fill < 0 then 0 else fill

def getProgressBar (p : Double) (width : Int := 20) : String :=
  let fill := fill p width
  "[" ++ String.ofList (List.replicate fill.toNat '#') ++
    String.ofList (List.replicate (width - fill).toNat '.') ++ "]"

theorem fill_nonneg (p : Double) (width : Int) : 0 ≤ fill p width := by
  simp only [fill]
  omega

theorem fill_le (p : Double) {width : Int} (widthNonneg : 0 ≤ width) :
    fill p width ≤ width := by
  simp only [fill]
  omega

theorem toList_getProgressBar (p : Double) (width : Int) :
    (getProgressBar p width).toList =
      '[' :: List.replicate (fill p width).toNat '#' ++
        List.replicate (width - fill p width).toNat '.' ++ [']'] := by
  simp [getProgressBar]

theorem length_getProgressBar (p : Double) {width : Int} (widthNonneg : 0 ≤ width) :
    (getProgressBar p width).toList.length = width.toNat + 2 := by
  have lower := fill_nonneg p width
  have upper := fill_le p widthNonneg
  simp only [toList_getProgressBar, List.length_append, List.length_cons,
    List.length_replicate, List.length_nil]
  omega

def cells (p : Double) : Nat := (fill p 20).toNat

theorem count_getProgressBar (p : Double) :
    (getProgressBar p).toList.count '#' = cells p := by
  simp [toList_getProgressBar, List.count_replicate, cells]

theorem cells_le (p : Double) : cells p ≤ 20 := by
  have atMost : fill p 20 ≤ 20 := fill_le p (by decide)
  rw [cells]
  omega

end Bar

/-! ## What the cells say about the probability -/

theorem toInt_of_nonneg {value : ℝ} (nonneg : 0 ≤ value) :
    Truncating.toInt value = ⌊value⌋ := if_pos nonneg

theorem toInt_nonpos_of_neg {value : ℝ} (negative : value < 0) :
    Truncating.toInt value ≤ 0 := by
  have truncated : Truncating.toInt value = ⌈value⌉ := if_neg (not_le.mpr negative)
  rw [truncated]
  exact Int.ceil_le.mpr (by simpa using negative.le)

theorem le_fill_iff (p : ℝ) {count width : Int} (positive : 0 < count)
    (fits : count ≤ width) : count ≤ fill p width ↔ (count : ℝ) ≤ p * width := by
  have countPositive : (0 : ℝ) < count := Int.cast_pos.mpr positive
  let cells : Int := Truncating.toInt (p * (width : ℝ))
  have truncated : count ≤ cells ↔ (count : ℝ) ≤ p * width := by
    rcases le_or_gt 0 (p * (width : ℝ)) with nonneg | negative
    · rw [show cells = ⌊p * (width : ℝ)⌋ from toInt_of_nonneg nonneg, Int.le_floor]
    · have none : cells ≤ 0 := toInt_nonpos_of_neg negative
      apply iff_of_false
      · omega
      · intro reached
        exact (countPositive.trans_le reached).not_gt negative
  have clamped : fill p width =
      if (if cells > width then width else cells) < 0 then 0
      else if cells > width then width else cells := rfl
  rw [← truncated, clamped]
  omega

theorem le_cells_iff (p : ℝ) {count : Nat} (positive : 0 < count) (fits : count ≤ 20) :
    count ≤ cells p ↔ (count : ℝ) ≤ p * 20 := by
  have reached := le_fill_iff p (Int.natCast_pos.mpr positive)
    (show (count : Int) ≤ 20 by omega)
  rw [cells, Int.le_toNat (fill_nonneg p 20), reached]
  push_cast
  rfl

theorem cells_lt_iff (p : ℝ) {count : Nat} (positive : 0 < count) (fits : count ≤ 20) :
    cells p < count ↔ p * 20 < count := by
  rw [← not_le, le_cells_iff p positive fits, not_le]

theorem getFuzzyLabel_eq_of_cells (p : ℝ) :
    getFuzzyLabel p =
      if cells p < 4 then "SAFE"
      else if cells p < 10 then "SUSPICIOUS"
      else if cells p < 16 then "THREAT"
      else "CRITICAL" := by
  have safe : cells p < 4 ↔ p < 0.2 := by
    rw [cells_lt_iff p (by decide) (by decide)]
    push_cast
    constructor <;> intro _ <;> linarith
  have suspicious : cells p < 10 ↔ p < 0.5 := by
    rw [cells_lt_iff p (by decide) (by decide)]
    push_cast
    constructor <;> intro _ <;> linarith
  have threat : cells p < 16 ↔ p < 0.8 := by
    rw [cells_lt_iff p (by decide) (by decide)]
    push_cast
    constructor <;> intro _ <;> linarith
  simp only [getFuzzyLabel, safe, suspicious, threat]

end Prism.Utils

import Mathlib.Analysis.SpecialFunctions.Log.Base
import Prism.Feature.FeatureExtractor
import Prism.Foundation.Statistics

/-! # The features in exact arithmetic

Over the reals the loops of the feature extractor are counts, a maximum, sums,
a mean and a standard deviation.
-/

namespace Prism.Features

theorem VisitOrder.le_length_of_mem_counts [DecidableEq Key] (order : VisitOrder Key)
    {keys : List Key} {v : Nat} (member : v ∈ order.counts keys) :
    v ≤ keys.length := by
  rcases List.mem_map.mp member with ⟨key, _, rfl⟩
  exact List.count_le_length

namespace FeatureExtractor

/-! ## Loops that add up -/

theorem foldl_eq_add_sum {Total : Type} [AddMonoid Total] {step : Total → Item → Total}
    {gain : Item → Total} (adds : ∀ total item, step total item = total + gain item)
    (items : List Item) (start : Total) :
    items.foldl step start = start + (items.map gain).sum := by
  induction items generalizing start with
  | nil => rw [List.foldl_nil, List.map_nil, List.sum_nil, add_zero]
  | cons item items induction =>
      rw [List.foldl_cons, induction, adds, List.map_cons, List.sum_cons, add_assoc]

/-! ## Counts -/

theorem writeCount_real (records : List ParsedRecord) :
    (writeCount records : ℝ) = records.countP ParsedRecord.isWrite := by
  have loop : ∀ start : ℝ,
      records.foldl (fun count rec => if rec.isWrite then count + 1.0 else count) start =
        start + records.countP ParsedRecord.isWrite := by
    induction records with
    | nil => simp
    | cons rec records induction =>
        intro start
        rw [List.foldl_cons, induction, List.countP_cons]
        cases rec.isWrite with
        | true => norm_num; ring
        | false => simp
  exact (loop 0.0).trans (by norm_num)

/-- The loops over counts read them as signed integers. -/
theorem bind_pure_cast (counts : List Nat) :
    (counts >>= fun v => pure (v : Int)) = counts.map Nat.cast := by
  rw [bind_pure_comp]
  rfl

theorem maxCount_le_iff (counts : List Nat) (bound : ℝ) :
    maxCount counts ≤ bound ↔ 0 ≤ bound ∧ ∀ v ∈ counts, (v : ℝ) ≤ bound := by
  have loop : ∀ start : ℝ,
      counts.foldl
        (fun (greatest : ℝ) (v : Nat) =>
          if greatest < ((v : Int) : ℝ) then ((v : Int) : ℝ) else greatest)
        start ≤ bound ↔
        start ≤ bound ∧ ∀ v ∈ counts, (v : ℝ) ≤ bound := by
    induction counts with
    | nil => simp
    | cons v counts induction =>
        intro start
        rw [List.foldl_cons, induction, List.forall_mem_cons, ← and_assoc]
        refine and_congr_left' ?_
        rw [Int.cast_natCast]
        split
        · exact ⟨fun le => ⟨by linarith, le⟩, And.right⟩
        · exact ⟨fun le => ⟨le, by linarith⟩, And.left⟩
  have whole := loop 0.0
  rw [maxCount, bind_pure_cast, List.foldl_map]
  refine whole.trans ?_
  norm_num

theorem maxCount_nonneg (counts : List Nat) : 0 ≤ (maxCount counts : ℝ) :=
  ((maxCount_le_iff counts _).mp le_rfl).1

/-! ## The entropy -/

theorem entropy_real {total : ℝ} (totalNonneg : 0 ≤ total) (counts : List Nat) :
    entropy total counts =
      (counts.map fun v : Nat => -(v / total * Real.logb 2 (v / total))).sum := by
  have adds : ∀ (entropy : ℝ) (v : Nat),
      (if 0.0 < ((v : Int) : ℝ) / total then
          entropy - ((v : Int) : ℝ) / total * Real.logb 2 (((v : Int) : ℝ) / total)
        else entropy) = entropy + -(v / total * Real.logb 2 (v / total)) := by
    intro entropy v
    rw [Int.cast_natCast]
    split
    · exact sub_eq_add_neg _ _
    · rename_i notPositive
      have nonneg : 0 ≤ (v : ℝ) / total := div_nonneg v.cast_nonneg totalNonneg
      have zero : (v : ℝ) / total = 0 := by
        norm_num at notPositive
        exact le_antisymm notPositive nonneg
      rw [zero]
      simp
  have whole := foldl_eq_add_sum adds counts 0.0
  rw [entropy, bind_pure_cast, List.foldl_map]
  refine whole.trans ?_
  norm_num

theorem entropy_nonneg {total : ℝ} (counts : List Nat)
    (parts : ∀ v ∈ counts, (v : ℝ) ≤ total) (totalNonneg : 0 ≤ total) :
    0 ≤ entropy total counts := by
  rw [entropy_real totalNonneg]
  apply List.sum_nonneg
  simp only [List.mem_map]
  rintro _ ⟨v, member, rfl⟩
  have nonneg : 0 ≤ (v : ℝ) / total := div_nonneg v.cast_nonneg totalNonneg
  have atMostOne : (v : ℝ) / total ≤ 1 := div_le_one_of_le₀ (parts v member) totalNonneg
  have logNonpos := Real.logb_nonpos one_lt_two nonneg atMostOne
  exact neg_nonneg.mpr (mul_nonpos_of_nonneg_of_nonpos nonneg logNonpos)

/-! ## Inter-arrival times -/

/-- The times between consecutive records, in clock ticks. -/
def gaps (records : List ParsedRecord) : List Duration :=
  List.zipWith (fun later earlier => later.timestamp - earlier.timestamp)
    records.tail records

@[simp] theorem length_gaps (records : List ParsedRecord) :
    (gaps records).length = records.length - 1 := by
  simp [gaps]

theorem gaps_eq_zipWith (records : List ParsedRecord) :
    gaps records =
      List.zipWith (fun later earlier => later - earlier)
        (records.map ParsedRecord.timestamp).tail
        (records.map ParsedRecord.timestamp) := by
  rw [← List.map_tail, List.zipWith_map]
  rfl

theorem gaps_cons_cons (first second : ParsedRecord) (records : List ParsedRecord) :
    gaps (first :: second :: records) =
      (second.timestamp - first.timestamp) :: gaps (second :: records) := rfl

theorem sum_gaps {records : List ParsedRecord} {first last : ParsedRecord}
    (isFirst : first ∈ records.head?) (isLast : last ∈ records.getLast?) :
    (gaps records).sum = last.timestamp - first.timestamp := by
  induction records generalizing first with
  | nil => cases isFirst
  | cons head tail induction =>
      rw [List.head?_cons, Option.mem_some_iff] at isFirst
      subst first
      cases tail with
      | nil =>
          rw [List.getLast?_singleton, Option.mem_some_iff] at isLast
          rw [isLast, sub_self]
          rfl
      | cons second tail =>
          rw [List.getLast?_cons_cons] at isLast
          rw [gaps_cons_cons, List.sum_cons, induction rfl isLast]
          ring

theorem gaps_nonneg {records : List ParsedRecord}
    (inOrder : records.Pairwise fun earlier later =>
      earlier.timestamp ≤ later.timestamp) :
    ∀ gap ∈ gaps records, 0 ≤ gap := by
  induction records with
  | nil => simp [gaps]
  | cons head tail induction =>
      cases tail with
      | nil => simp [gaps]
      | cons second tail =>
          rcases List.pairwise_cons.mp inOrder with ⟨headLe, rest⟩
          rw [gaps_cons_cons, List.forall_mem_cons]
          exact ⟨Int.sub_nonneg.mpr (headLe second List.mem_cons_self), induction rest⟩

theorem seconds_real (duration : Duration) :
    (seconds duration : ℝ) = duration / 1000000000 := by
  change (duration : ℝ) / ((1000000000 : Int) : ℝ) = _
  norm_num

theorem seconds_nonneg {duration : Duration} (nonneg : 0 ≤ duration) :
    (0 : ℝ) ≤ seconds duration := by
  rw [seconds_real]
  exact div_nonneg (Int.cast_nonneg nonneg) (by norm_num)

theorem seconds_mono {duration duration' : Duration} (le : duration ≤ duration') :
    (seconds duration : ℝ) ≤ seconds duration' := by
  have cast : (duration : ℝ) ≤ duration' := Int.cast_le.mpr le
  rw [seconds_real, seconds_real]
  linarith

theorem deltas_eq_map_seconds (records : List ParsedRecord) :
    (deltas records : List ℝ) = (gaps records).map seconds := by
  rw [deltas, gaps, List.map_zipWith]

theorem deltas_real (records : List ParsedRecord) :
    (deltas records : List ℝ) =
      ((gaps records).map (Int.castRingHom ℝ)).map (1 / 1000000000 * ·) := by
  rw [deltas_eq_map_seconds, List.map_map]
  refine List.map_congr_left ?_
  intro gap _
  rw [seconds_real, Function.comp_apply, eq_intCast]
  ring

theorem sum_deltas (records : List ParsedRecord) :
    (deltas records : List ℝ).sum = ((gaps records).sum : Int) / 1000000000 := by
  rw [deltas_real, List.sum_map_mul_left, List.map_id', ← map_list_sum, eq_intCast]
  ring

theorem meanIA_real (deltas : List ℝ) : meanIA deltas = Statistics.mean deltas := by
  change deltas.foldl (· + ·) (0.0 : ℝ) / ((deltas.length : Int) : ℝ) = _
  rw [foldl_eq_add_sum fun _ _ => rfl, List.map_id', Int.cast_natCast, Statistics.mean]
  norm_num

theorem stdIA_real (deltas : List ℝ) :
    stdIA deltas = Real.sqrt (Statistics.variance deltas) := by
  have adds : ∀ sum d : ℝ, sum + (d - meanIA deltas) * (d - meanIA deltas) =
      sum + (d - meanIA deltas) ^ 2 := by
    intro sum d
    rw [sq]
  change Real.sqrt
    (deltas.foldl (fun sum d => sum + (d - meanIA deltas) * (d - meanIA deltas))
      (0.0 : ℝ) / ((deltas.length : Int) : ℝ)) = _
  rw [foldl_eq_add_sum adds, Int.cast_natCast, meanIA_real, Statistics.variance]
  norm_num

theorem meanIA_deltas (records : List ParsedRecord) :
    (meanIA (deltas records) : ℝ) =
      ((gaps records).sum : Int) / (1000000000 * ((records.length - 1 : Nat) : ℝ)) := by
  have sameLength : (deltas records : List ℝ).length = records.length - 1 := by
    rw [deltas_real, List.length_map, List.length_map, length_gaps]
  rw [meanIA_real, Statistics.mean, sum_deltas, sameLength, div_div]

theorem variance_deltas (records : List ParsedRecord) :
    Statistics.variance (deltas records : List ℝ) =
      ((Statistics.spread (gaps records) : Int) : ℝ) /
        (1000000000 ^ 2 * ((records.length - 1 : Nat) : ℝ) ^ 2) := by
  rw [Statistics.variance_eq_spread_div, deltas_real, Statistics.spread_map_mul_left,
    Statistics.map_spread]
  simp only [List.length_map, length_gaps, eq_intCast]
  ring

/-! ## The vector -/

section Compute

variable {Double : Type} [DoubleArithmetic Double]

theorem compute_of_nonempty (orders : VisitOrders) {window : Window}
    (nonempty : window.records ≠ []) :
    let records := window.records
    let total : Double := DoubleArithmetic.ofInt records.length
    let funcCounts := orders.functions.counts (records.map ParsedRecord.functionCode)
    let addrCounts := orders.addresses.counts (records.map ParsedRecord.address)
    let protoCounts := orders.protocols.counts (records.map ParsedRecord.protocol)
    compute orders window =
      { values :=
          [total, writeCount records / total, maxCount funcCounts / total,
            entropy total addrCounts, maxCount protoCounts / total,
            if 1 < records.length then meanIA (deltas records) else 0.0,
            if 1 < records.length then stdIA (deltas records) else 0.0,
            maxCount addrCounts / total] } := by
  have positive : window.records.length ≠ 0 :=
    (List.length_pos_iff.mpr nonempty).ne'
  simp only [compute, if_neg positive]

end Compute

end FeatureExtractor

end Prism.Features

import Prism.Feature.ExactFeatures
import Prism.Foundation.CountedParts

/-! # The distribution features

The counting loops divide the records of a window among their keys, in whatever
order a map is visited. What the extractor makes of the counts, the share of the
greatest one and the entropy, is consistent.
-/

namespace Prism.Features

/-! ## Counts divide the records -/

namespace VisitOrder

variable {Key : Type} [DecidableEq Key] (order : VisitOrder Key) (keys : List Key)

theorem counts_perm :
    (order.counts keys).Perm (keys.dedup.map fun key => keys.count key) :=
  (order.visit_perm keys).map _

theorem length_counts : (order.counts keys).length = keys.dedup.length := by
  rw [(order.counts_perm keys).length_eq, List.length_map]

theorem sum_counts : (order.counts keys).sum = keys.length := by
  rw [(order.counts_perm keys).sum_eq, List.sum_map_count_dedup_eq_length]

variable {keys}

theorem mem_counts_iff {v : Nat} :
    v ∈ order.counts keys ↔ ∃ key ∈ keys, keys.count key = v := by
  rw [(order.counts_perm keys).mem_iff, List.mem_map]
  simp only [List.mem_dedup]

theorem pos_of_mem_counts {v : Nat} (member : v ∈ order.counts keys) : 0 < v := by
  rcases order.mem_counts_iff.mp member with ⟨key, inKeys, rfl⟩
  exact List.count_pos_iff.mpr inKeys

theorem counts_ne_nil (nonempty : keys ≠ []) : order.counts keys ≠ [] := by
  rcases List.exists_mem_of_ne_nil keys nonempty with ⟨key, member⟩
  exact List.ne_nil_of_mem (order.mem_counts_iff.mpr ⟨key, member, rfl⟩)

end VisitOrder

namespace FeatureExtractor

/-! ## The greatest count -/

theorem le_maxCount {counts : List Nat} {v : Nat} (member : v ∈ counts) :
    (v : ℝ) ≤ maxCount counts :=
  ((maxCount_le_iff counts _).mp le_rfl).2 v member

theorem maxCount_perm {counts counts' : List Nat} (perm : counts.Perm counts') :
    (maxCount counts : ℝ) = maxCount counts' := by
  refine eq_of_forall_ge_iff fun bound => ?_
  rw [maxCount_le_iff, maxCount_le_iff]
  refine and_congr_right fun _ => ?_
  exact forall_congr' fun v => imp_congr_left perm.mem_iff

theorem exists_eq_maxCount {counts : List Nat} (nonempty : counts ≠ []) :
    ∃ v ∈ counts, (maxCount counts : ℝ) = v := by
  cases greatest : counts.max? with
  | none => exact absurd (List.max?_eq_none_iff.mp greatest) nonempty
  | some v =>
      rcases List.max?_eq_some_iff.mp greatest with ⟨member, atMost⟩
      refine ⟨v, member, le_antisymm ?_ (le_maxCount member)⟩
      rw [maxCount_le_iff]
      refine ⟨v.cast_nonneg, ?_⟩
      exact fun other inCounts => Nat.cast_le.mpr (atMost other inCounts)

end FeatureExtractor

/-! ## Shares of the keys -/

namespace VisitOrder

open FeatureExtractor

variable {Key : Type} [DecidableEq Key] (order : VisitOrder Key)

noncomputable def greatestShare (keys : List Key) : ℝ :=
  maxCount (order.counts keys) / keys.length

/-- The entropy of the keys. -/
noncomputable def keyEntropy (keys : List Key) : ℝ :=
  entropy keys.length (order.counts keys)

theorem keyEntropy_eq (keys : List Key) :
    order.keyEntropy keys = CountedParts.entropy 2 keys.length (order.counts keys) :=
  entropy_real (Nat.cast_nonneg _) _

theorem isTotal_counts (keys : List Key) :
    ((order.counts keys).sum : ℝ) = keys.length := by
  rw [order.sum_counts]

/-- Neither the order of the keys nor the one in which the map is visited has an
influence on the counts, nor has what the keys are called. -/
theorem counts_renamed [DecidableEq Key'] (order' : VisitOrder Key')
    {rename : Key → Key'} (injective : Function.Injective rename) {keys : List Key}
    {keys' : List Key'} (renamed : keys'.Perm (keys.map rename)) :
    (order'.counts keys').Perm (order.counts keys) := by
  have sameCount : keys'.count ∘ rename = keys.count := by
    funext key
    rw [Function.comp_apply, renamed.count_eq,
      List.count_map_of_injective keys rename injective]
  calc
    (order'.counts keys').Perm (keys'.dedup.map keys'.count) := order'.counts_perm keys'
    List.Perm _ ((keys.map rename).dedup.map keys'.count) := renamed.dedup.map _
    _ = keys.dedup.map keys.count := by
      rw [List.dedup_map_of_injective injective, List.map_map, sameCount]
    List.Perm _ (order.counts keys) := (order.counts_perm keys).symm

theorem greatestShare_renamed [DecidableEq Key'] (order' : VisitOrder Key')
    {rename : Key → Key'} (injective : Function.Injective rename) {keys : List Key}
    {keys' : List Key'} (renamed : keys'.Perm (keys.map rename)) :
    order.greatestShare keys = order'.greatestShare keys' := by
  rw [greatestShare, greatestShare, renamed.length_eq, List.length_map,
    maxCount_perm (order.counts_renamed order' injective renamed)]

theorem keyEntropy_renamed [DecidableEq Key'] (order' : VisitOrder Key')
    {rename : Key → Key'} (injective : Function.Injective rename) {keys : List Key}
    {keys' : List Key'} (renamed : keys'.Perm (keys.map rename)) :
    order.keyEntropy keys = order'.keyEntropy keys' := by
  rw [keyEntropy_eq, keyEntropy_eq, renamed.length_eq, List.length_map,
    CountedParts.entropy_perm _ _ (order.counts_renamed order' injective renamed)]

theorem greatestShare_perm (order' : VisitOrder Key) {keys keys' : List Key}
    (perm : keys.Perm keys') : order.greatestShare keys = order'.greatestShare keys' :=
  order.greatestShare_renamed order' Function.injective_id
    (perm.symm.trans (.of_eq (List.map_id keys).symm))

theorem keyEntropy_perm (order' : VisitOrder Key) {keys keys' : List Key}
    (perm : keys.Perm keys') : order.keyEntropy keys = order'.keyEntropy keys' :=
  order.keyEntropy_renamed order' Function.injective_id
    (perm.symm.trans (.of_eq (List.map_id keys).symm))

theorem greatestShare_nonneg (keys : List Key) : 0 ≤ order.greatestShare keys :=
  div_nonneg (maxCount_nonneg _) (Nat.cast_nonneg _)

theorem greatestShare_le_one (keys : List Key) : order.greatestShare keys ≤ 1 := by
  apply div_le_one_of_le₀ _ (Nat.cast_nonneg _)
  refine (maxCount_le_iff _ _).mpr ⟨Nat.cast_nonneg _, ?_⟩
  exact fun v member => Nat.cast_le.mpr (order.le_length_of_mem_counts member)

theorem keyEntropy_nonneg (keys : List Key) : 0 ≤ order.keyEntropy keys := by
  refine FeatureExtractor.entropy_nonneg _ ?_ (Nat.cast_nonneg _)
  intro v member
  exact Nat.cast_le.mpr (order.le_length_of_mem_counts member)

variable {keys : List Key} (nonempty : keys ≠ [])
include nonempty

omit [DecidableEq Key] in
theorem length_pos : 0 < (keys.length : ℝ) :=
  Nat.cast_pos.mpr (List.length_pos_iff.mpr nonempty)

theorem one_div_le_greatestShare :
    1 / (keys.length : ℝ) ≤ order.greatestShare keys := by
  rcases exists_eq_maxCount (order.counts_ne_nil nonempty) with ⟨v, member, isGreatest⟩
  have atLeastOne : (1 : ℝ) ≤ v := Nat.one_le_cast.mpr (order.pos_of_mem_counts member)
  rw [greatestShare, isGreatest]
  exact div_le_div_of_nonneg_right atLeastOne (length_pos nonempty).le

omit nonempty in
theorem greatestShare_map_mem (key : Record → Key) {records : List Record}
    (nonempty : records ≠ []) :
    1 / (records.length : ℝ) ≤ order.greatestShare (records.map key) ∧
      order.greatestShare (records.map key) ≤ 1 := by
  have keysNonempty : records.map key ≠ [] := mt List.map_eq_nil_iff.mp nonempty
  have atLeast := order.one_div_le_greatestShare keysNonempty
  rw [List.length_map] at atLeast
  exact ⟨atLeast, order.greatestShare_le_one _⟩

theorem greatestShare_eq_one_iff :
    order.greatestShare keys = 1 ↔ ∃ key, ∀ other ∈ keys, other = key := by
  rcases exists_eq_maxCount (order.counts_ne_nil nonempty) with ⟨v, member, isGreatest⟩
  rcases order.mem_counts_iff.mp member with ⟨key, inKeys, isCount⟩
  rw [greatestShare, div_eq_one_iff_eq (length_pos nonempty).ne', isGreatest,
    Nat.cast_inj, ← isCount, List.count_eq_length]
  constructor
  · intro whole
    exact ⟨key, fun other inKeys => (whole other inKeys).symm⟩
  · rintro ⟨single, same⟩ other otherInKeys
    rw [same key inKeys, same other otherInKeys]

theorem neg_logb_le_keyEntropy :
    -Real.logb 2 (order.greatestShare keys) ≤ order.keyEntropy keys := by
  rw [keyEntropy_eq]
  exact CountedParts.neg_logb_le_entropy one_lt_two (length_pos nonempty)
    (order.isTotal_counts keys) fun v member => le_maxCount member

theorem keyEntropy_le_logb_dedup :
    order.keyEntropy keys ≤ Real.logb 2 keys.dedup.length := by
  rw [keyEntropy_eq, ← order.length_counts]
  exact CountedParts.entropy_le_logb_length one_lt_two (length_pos nonempty)
    (order.isTotal_counts keys) (order.counts_ne_nil nonempty)
    fun v => order.pos_of_mem_counts

omit order in
theorem logb_dedup_le : Real.logb 2 keys.dedup.length ≤ Real.logb 2 keys.length := by
  have someKey : keys.dedup ≠ [] := by
    rcases List.exists_mem_of_ne_nil keys nonempty with ⟨key, member⟩
    exact List.ne_nil_of_mem (List.mem_dedup.mpr member)
  exact Real.logb_le_logb_of_le one_lt_two (length_pos someKey)
    (Nat.cast_le.mpr (List.dedup_sublist keys).length_le)

theorem keyEntropy_eq_zero_iff :
    order.keyEntropy keys = 0 ↔ order.greatestShare keys = 1 := by
  constructor
  · intro zero
    have atLeast := order.neg_logb_le_keyEntropy nonempty
    have positive : 0 < order.greatestShare keys :=
      (one_div_pos.mpr (length_pos nonempty)).trans_le
        (order.one_div_le_greatestShare nonempty)
    rw [zero, neg_nonpos, Real.logb_nonneg_iff one_lt_two positive] at atLeast
    exact le_antisymm (order.greatestShare_le_one keys) atLeast
  · intro whole
    rcases (order.greatestShare_eq_one_iff nonempty).mp whole with ⟨single, same⟩
    rw [keyEntropy_eq]
    apply CountedParts.entropy_eq_zero (length_pos nonempty)
    intro v member
    rcases order.mem_counts_iff.mp member with ⟨key, inKeys, rfl⟩
    rw [Nat.cast_inj, List.count_eq_length]
    intro other otherInKeys
    rw [same key inKeys, same other otherInKeys]

end VisitOrder

/-! ## The features of a window -/

namespace FeatureExtractor

/-- Also a window without records has the features that its counts say. -/
theorem compute_real (orders : VisitOrders) (window : Window) :
    let records := window.records
    let n : ℝ := records.length
    compute orders window =
      { values :=
          [n, records.countP ParsedRecord.isWrite / n,
            orders.functions.greatestShare (records.map ParsedRecord.functionCode),
            orders.addresses.keyEntropy (records.map ParsedRecord.address),
            orders.protocols.greatestShare (records.map ParsedRecord.protocol),
            if 1 < records.length then meanIA (deltas records) else 0.0,
            if 1 < records.length then stdIA (deltas records) else 0.0,
            orders.addresses.greatestShare (records.map ParsedRecord.address)] } := by
  by_cases empty : window.records = []
  · have noEntropy : orders.addresses.keyEntropy [] = 0 := by
      simp [VisitOrder.keyEntropy_eq, CountedParts.entropy, CountedParts.information]
    simp [compute, empty, VisitOrder.greatestShare, noEntropy]
    norm_num
  · rw [compute_of_nonempty orders empty, writeCount_real]
    simp only [VisitOrder.greatestShare, VisitOrder.keyEntropy, List.length_map]
    rw [← Int.cast_natCast (R := ℝ) window.records.length]
    rfl

/-- In exact arithmetic the features do not depend on the orders in which the maps
are visited. -/
theorem compute_congr_orders (orders orders' : VisitOrders) (window : Window) :
    (compute orders window : FeatureVector ℝ) = compute orders' window := by
  rw [compute_real, compute_real,
    orders.functions.greatestShare_perm orders'.functions (.refl _),
    orders.addresses.keyEntropy_perm orders'.addresses (.refl _),
    orders.protocols.greatestShare_perm orders'.protocols (.refl _),
    orders.addresses.greatestShare_perm orders'.addresses (.refl _)]

/-- The distribution features of any window with records are consistent: the write
ratio is a share, the three greatest shares are between one record and all of them,
the entropy of the addresses lies between the information in the most frequent one
and the one of as many equal parts, and it is zero exactly if there is one address. -/
theorem distribution_features_consistent (orders : VisitOrders) (window : Window)
    (nonempty : window.records ≠ []) :
    let records := window.records
    let n : ℝ := records.length
    let distinct : ℝ := (records.map ParsedRecord.address).dedup.length
    let values : List ℝ := (compute orders window).values
    let writeRatio := values.getD 1 0
    let funcConc := values.getD 2 0
    let entropy := values.getD 3 0
    let protoDom := values.getD 4 0
    let targetDensity := values.getD 7 0
    (0 ≤ writeRatio ∧ writeRatio ≤ 1) ∧
    (1 / n ≤ funcConc ∧ funcConc ≤ 1) ∧
    (1 / n ≤ protoDom ∧ protoDom ≤ 1) ∧
    (1 / n ≤ targetDensity ∧ targetDensity ≤ 1) ∧
    (-Real.logb 2 targetDensity ≤ entropy ∧ entropy ≤ Real.logb 2 distinct ∧
      Real.logb 2 distinct ≤ Real.logb 2 n) ∧
    (entropy = 0 ↔ targetDensity = 1) ∧
    (targetDensity = 1 ↔ ∃ address, ∀ record ∈ records, record.address = address) := by
  intro records n distinct values writeRatio funcConc entropy protoDom targetDensity
  have isValues := congrArg FeatureVector.values (compute_real orders window)
  have isWriteRatio : writeRatio = records.countP ParsedRecord.isWrite / n :=
    congrArg (List.getD · 1 0) isValues
  have isFuncConc : funcConc =
      orders.functions.greatestShare (records.map ParsedRecord.functionCode) :=
    congrArg (List.getD · 2 0) isValues
  have isEntropy : entropy =
      orders.addresses.keyEntropy (records.map ParsedRecord.address) :=
    congrArg (List.getD · 3 0) isValues
  have isProtoDom : protoDom =
      orders.protocols.greatestShare (records.map ParsedRecord.protocol) :=
    congrArg (List.getD · 4 0) isValues
  have isTargetDensity : targetDensity =
      orders.addresses.greatestShare (records.map ParsedRecord.address) :=
    congrArg (List.getD · 7 0) isValues
  have addresses : records.map ParsedRecord.address ≠ [] :=
    mt List.map_eq_nil_iff.mp nonempty
  rw [isWriteRatio, isFuncConc, isEntropy, isProtoDom, isTargetDensity]
  refine ⟨⟨?_, ?_⟩, ?_, ?_, ?_, ⟨?_, ?_, ?_⟩, ?_, ?_⟩
  · exact div_nonneg (Nat.cast_nonneg _) (Nat.cast_nonneg _)
  · exact div_le_one_of_le₀ (Nat.cast_le.mpr List.countP_le_length) (Nat.cast_nonneg _)
  · exact orders.functions.greatestShare_map_mem _ nonempty
  · exact orders.protocols.greatestShare_map_mem _ nonempty
  · exact orders.addresses.greatestShare_map_mem _ nonempty
  · exact orders.addresses.neg_logb_le_keyEntropy addresses
  · exact orders.addresses.keyEntropy_le_logb_dedup addresses
  · refine (VisitOrder.logb_dedup_le addresses).trans_eq ?_
    rw [List.length_map]
  · exact orders.addresses.keyEntropy_eq_zero_iff addresses
  · rw [orders.addresses.greatestShare_eq_one_iff addresses]
    simp only [List.forall_mem_map]

/-- Three records, two of them for one address. -/
theorem distribution_features_consistent_of_three_records :
    let records : List ParsedRecord :=
      [{ address := 1 }, { address := 2 }, { address := 1 }]
    let values : List ℝ := (compute .byInsertion { records := records }).values
    values.getD 3 0 ≤ Real.logb 2 (2 : Nat) ∧
      -Real.logb 2 (values.getD 7 0) ≤ values.getD 3 0 := by
  intro records values
  rcases distribution_features_consistent .byInsertion { records := records }
    (List.cons_ne_nil _ _) with ⟨_, _, _, _, ⟨atLeast, atMost, _⟩, _⟩
  exact ⟨atMost, atLeast⟩

end FeatureExtractor

end Prism.Features

import Prism.Feature.Distributions

/-! # What the features depend on

The distribution features only see how often each content occurs among the records,
the timing features only see how far apart the records are.
-/

namespace Prism.Features.FeatureExtractor

/-! ## The content of a record -/

/-- What the counting loop reads of a record. -/
structure Content where
  isWrite : Bool
  functionCode : UInt8
  address : UInt16
  protocol : String
  deriving DecidableEq

def content (record : ParsedRecord) : Content where
  isWrite := record.isWrite
  functionCode := record.functionCode
  address := record.address
  protocol := record.protocol

/-- The positions of the features that the counting loop and the maps lead to. -/
def distributionFeatures : List Nat := [0, 1, 2, 3, 4, 7]

section Fields

variable {records records' : List ParsedRecord}

theorem perm_map_of_content (field : Content → Value)
    (same : (records.map content).Perm (records'.map content)) :
    (records.map fun record => field (content record)).Perm
      (records'.map fun record => field (content record)) := by
  have mapped := same.map field
  rwa [List.map_map, List.map_map] at mapped

theorem length_eq_of_map_eq {first second : ParsedRecord → Value}
    (same : records.map first = records'.map second) :
    records.length = records'.length := by
  rw [← List.length_map first, same, List.length_map]

theorem map_renamed {field : ParsedRecord → Value} {rename : Value → Value}
    (renamed : records'.map field = records.map fun record => rename (field record)) :
    records'.map field = (records.map field).map rename := by
  rw [renamed, List.map_map]
  rfl

theorem countP_isWrite_perm
    (same : (records.map ParsedRecord.isWrite).Perm
      (records'.map ParsedRecord.isWrite)) :
    records.countP ParsedRecord.isWrite = records'.countP ParsedRecord.isWrite := by
  have counts := same.countP_eq id
  rwa [List.countP_map, List.countP_map] at counts

/-! ## The times of arrival -/

theorem gaps_shifted (shift : Duration)
    (shifted : records'.map ParsedRecord.timestamp =
      records.map fun record => record.timestamp + shift) :
    gaps records' = gaps records := by
  have times : records'.map ParsedRecord.timestamp =
      (records.map ParsedRecord.timestamp).map (· + shift) := map_renamed shifted
  rw [gaps_eq_zipWith, gaps_eq_zipWith, times, ← List.map_tail, List.zipWith_map]
  simp only [add_sub_add_right_eq_sub]

theorem gaps_congr
    (same : records.map ParsedRecord.timestamp = records'.map ParsedRecord.timestamp) :
    gaps records = gaps records' := by
  rw [gaps_eq_zipWith, gaps_eq_zipWith, same]

end Fields

/-! ## The features of two windows -/

section Windows

variable (orders orders' : VisitOrders) {window window' : Window}

theorem distribution_congr
    (same : (window.records.map content).Perm (window'.records.map content)) :
    ∀ i ∈ distributionFeatures,
      (compute orders window : FeatureVector ℝ).values[i]? =
        (compute orders' window').values[i]? := by
  have sameLength := same.length_eq
  rw [List.length_map, List.length_map] at sameLength
  have sameWrites := countP_isWrite_perm (perm_map_of_content Content.isWrite same)
  have sameFunctions := orders.functions.greatestShare_perm orders'.functions
    (perm_map_of_content Content.functionCode same)
  have sameEntropy := orders.addresses.keyEntropy_perm orders'.addresses
    (perm_map_of_content Content.address same)
  have sameProtocols := orders.protocols.greatestShare_perm orders'.protocols
    (perm_map_of_content Content.protocol same)
  have sameAddresses := orders.addresses.greatestShare_perm orders'.addresses
    (perm_map_of_content Content.address same)
  rw [compute_real, compute_real]
  simp only [distributionFeatures, List.forall_mem_cons]
  refine ⟨?_, ?_, ?_, ?_, ?_, ?_, List.forall_mem_nil _⟩
  · exact congrArg (fun n : Nat => some (n : ℝ)) sameLength
  · exact congrArg₂ (fun writes n : Nat => some ((writes : ℝ) / n)) sameWrites
      sameLength
  · exact congrArg some sameFunctions
  · exact congrArg some sameEntropy
  · exact congrArg some sameProtocols
  · exact congrArg some sameAddresses

theorem protocol_features_renamed {rename : String → String}
    (injective : Function.Injective rename)
    (renamed : window'.records.map ParsedRecord.protocol =
      window.records.map fun record => rename record.protocol) :
    (compute orders window : FeatureVector ℝ).values[4]? =
      (compute orders' window').values[4]? := by
  have sameShare := orders.protocols.greatestShare_renamed orders'.protocols injective
    (.of_eq (map_renamed renamed))
  rw [compute_real, compute_real]
  exact congrArg some sameShare

theorem address_features_renamed {rename : UInt16 → UInt16}
    (injective : Function.Injective rename)
    (renamed : window'.records.map ParsedRecord.address =
      window.records.map fun record => rename record.address) :
    (compute orders window : FeatureVector ℝ).values[3]? =
        (compute orders' window').values[3]? ∧
      (compute orders window : FeatureVector ℝ).values[7]? =
        (compute orders' window').values[7]? := by
  have sameEntropy := orders.addresses.keyEntropy_renamed orders'.addresses injective
    (.of_eq (map_renamed renamed))
  have sameShare := orders.addresses.greatestShare_renamed orders'.addresses injective
    (.of_eq (map_renamed renamed))
  rw [compute_real, compute_real]
  exact ⟨congrArg some sameEntropy, congrArg some sameShare⟩

theorem timing_congr (sameLength : window.records.length = window'.records.length)
    (sameGaps : gaps window.records = gaps window'.records) :
    (compute orders window : FeatureVector ℝ).values[5]? =
        (compute orders' window').values[5]? ∧
      (compute orders window : FeatureVector ℝ).values[6]? =
        (compute orders' window').values[6]? := by
  rw [compute_real, compute_real, deltas_eq_map_seconds, deltas_eq_map_seconds,
    sameGaps, sameLength]
  exact ⟨rfl, rfl⟩

end Windows

/-- The features depend on nothing but what they are about. The size of a window and
its distribution features are the same for any two windows with the same multiset of
contents, so for the same records in another order, however the maps are visited.
That of the protocols is the same under other names for the protocols, and those of
the addresses under other addresses, as long as different ones stay different. The
timing features are the same for the same timestamps and for timestamps that are all
shifted by the same amount. -/
theorem features_invariant (orders orders' : VisitOrders) (window window' : Window) :
    let records := window.records
    let records' := window'.records
    let values : List ℝ := (compute orders window).values
    let values' : List ℝ := (compute orders' window').values
    ((records.map content).Perm (records'.map content) →
      ∀ i ∈ distributionFeatures, values[i]? = values'[i]?) ∧
    (records.Perm records' →
      ∀ i ∈ distributionFeatures, values[i]? = values'[i]?) ∧
    (∀ rename : String → String, Function.Injective rename →
      records'.map ParsedRecord.protocol =
        records.map (fun record => rename record.protocol) →
      values[4]? = values'[4]?) ∧
    (∀ rename : UInt16 → UInt16, Function.Injective rename →
      records'.map ParsedRecord.address =
        records.map (fun record => rename record.address) →
      values[3]? = values'[3]? ∧ values[7]? = values'[7]?) ∧
    (records.map ParsedRecord.timestamp = records'.map ParsedRecord.timestamp →
      values[5]? = values'[5]? ∧ values[6]? = values'[6]?) ∧
    (∀ shift : Duration,
      records'.map ParsedRecord.timestamp =
        records.map (fun record => record.timestamp + shift) →
      values[5]? = values'[5]? ∧ values[6]? = values'[6]?) := by
  intro records records' values values'
  refine ⟨?_, ?_, ?_, ?_, ?_, ?_⟩
  · exact distribution_congr orders orders'
  · intro perm
    exact distribution_congr orders orders' (perm.map content)
  · intro rename injective
    exact protocol_features_renamed orders orders' injective
  · intro rename injective
    exact address_features_renamed orders orders' injective
  · intro same
    exact timing_congr orders orders' (length_eq_of_map_eq same) (gaps_congr same)
  · intro shift shifted
    exact timing_congr orders orders' (length_eq_of_map_eq shifted).symm
      (gaps_shifted shift shifted).symm

/-- Two records, in the other order, under other names and at other times. -/
theorem features_invariant_of_two_records :
    let records : List ParsedRecord :=
      [{ timestamp := 3, protocol := "Modbus", address := 1 },
        { timestamp := 8, protocol := "DNP3", address := 2 }]
    let renamed := records.map fun record =>
      { record with
        protocol := "industrial " ++ record.protocol
        address := record.address + 40 }
    let later := records.map fun record =>
      { record with timestamp := record.timestamp + 100 }
    let values : List ParsedRecord → List ℝ := fun records =>
      (compute .byInsertion { records := records }).values
    (∀ i ∈ distributionFeatures, (values records)[i]? = (values records.reverse)[i]?) ∧
      (values records)[4]? = (values renamed)[4]? ∧
      (values records)[3]? = (values renamed)[3]? ∧
      (values records)[5]? = (values renamed)[5]? ∧
      (values records)[6]? = (values later)[6]? := by
  intro records renamed later values
  have stringsInjective : Function.Injective ("industrial " ++ ·) :=
    fun _ _ => (String.append_right_inj _).mp
  have addressesInjective : Function.Injective fun address : UInt16 => address + 40 :=
    fun _ _ => (UInt16.add_left_inj 40).mp
  have onReversed := features_invariant .byInsertion .byInsertion
    { records := records } { records := records.reverse }
  have onRenamed := features_invariant .byInsertion .byInsertion
    { records := records } { records := renamed }
  have onLater := features_invariant .byInsertion .byInsertion
    { records := records } { records := later }
  refine ⟨?_, ?_, ?_, ?_, ?_⟩
  · exact onReversed.2.1 (List.reverse_perm records).symm
  · exact onRenamed.2.2.1 _ stringsInjective rfl
  · exact (onRenamed.2.2.2.1 _ addressesInjective rfl).1
  · exact (onRenamed.2.2.2.2.1 rfl).1
  · exact (onLater.2.2.2.2.2 100 rfl).2

end Prism.Features.FeatureExtractor

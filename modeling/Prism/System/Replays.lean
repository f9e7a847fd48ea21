import Prism.Main.Stages
import Prism.System.PairedWindows
import Prism.Windowing.Delay

/-! # Replayed traffic

The same traffic at another time, with other function codes, addresses and protocols in
place of its own. As long as what was different stays different, it is judged alike.
-/

namespace Prism.System

open Prism.Detection Prism.Enforcement Prism.Features Prism.Main Prism.Risk
  Prism.Windowing

/-! ## Replayed records -/

/-- How much later the traffic is replayed, and under which names. -/
structure Replay where
  shift : Duration
  functions : UInt8 → UInt8
  addresses : UInt16 → UInt16
  functionsInjective : Function.Injective functions
  addressesInjective : Function.Injective addresses

/-- The second record is the first one replayed. Protocol and direction are free. -/
structure Replay.Replays (replay : Replay) (first second : ParsedRecord) : Prop where
  timestamp : second.timestamp = first.timestamp + replay.shift
  isWrite : second.isWrite = first.isWrite
  functionCode : second.functionCode = replay.functions first.functionCode
  address : second.address = replay.addresses first.address

section Windows

variable {replay : Replay}

structure Replay.ReplaysWindow (replay : Replay) (first second : Window) : Prop where
  startTime : second.startTime = first.startTime + replay.shift
  endTime : second.endTime = first.endTime + replay.shift
  records : List.Forall₂ replay.Replays first.records second.records

theorem detect_of_replays (orders orders' : VisitOrders) {window window' : Window}
    (replays : List.Forall₂ replay.Replays window.records window'.records) :
    (detect orders window : DetectionResult ℝ) = detect orders' window' := by
  have sameWrites := writeRatio_congr
    (map_eq_of_forall₂ (fun _ _ replayed => replayed.isWrite.symm) replays)
  have sameCodes : window'.records.map ParsedRecord.functionCode =
      (window.records.map ParsedRecord.functionCode).map replay.functions := by
    rw [List.map_map]
    exact (map_eq_of_forall₂ (fun _ _ replayed => replayed.functionCode.symm) replays).symm
  have sameAddresses : window'.records.map ParsedRecord.address =
      (window.records.map ParsedRecord.address).map replay.addresses := by
    rw [List.map_map]
    exact (map_eq_of_forall₂ (fun _ _ replayed => replayed.address.symm) replays).symm
  have sameConc : HalfSpaceTrees.funcConc orders window.records =
      HalfSpaceTrees.funcConc orders' window'.records := by
    rw [HalfSpaceTrees.funcConc_eq, HalfSpaceTrees.funcConc_eq]
    exact orders.functions.greatestShare_renamed orders'.functions
      replay.functionsInjective (.of_eq sameCodes)
  have sameEntropy : HalfSpaceTrees.addressEntropy orders window.records =
      HalfSpaceTrees.addressEntropy orders' window'.records := by
    rw [HalfSpaceTrees.addressEntropy_eq, HalfSpaceTrees.addressEntropy_eq]
    exact orders.addresses.keyEntropy_renamed orders'.addresses
      replay.addressesInjective (.of_eq sameAddresses)
  have sameVariance : BurstDetector.currentVariance window.records =
      BurstDetector.currentVariance window'.records := by
    have later := map_eq_of_forall₂ (fun _ _ replayed => replayed.timestamp.symm) replays
    rw [BurstDetector.currentVariance_eq, BurstDetector.currentVariance_eq,
      FeatureExtractor.gaps_shifted replay.shift later.symm, replays.length_eq]
  have sameHst : (detect orders window : DetectionResult ℝ).hstScore =
      (detect orders' window').hstScore := by
    rw [hstScore_detect, hstScore_detect, sameWrites, sameConc, sameEntropy]
  have sameBurst : (detect orders window : DetectionResult ℝ).burstScore =
      (detect orders' window').burstScore := by
    rw [burstScore_detect, burstScore_detect, sameVariance]
  exact congrArg₂ DetectionResult.mk sameHst sameBurst

end Windows

/-! ## Replayed streams -/

structure Replayed (replay : Replay) where
  first : ParsedRecord
  second : ParsedRecord
  replays : replay.Replays first second

instance (replay : Replay) : Timestamped (Replayed replay) where
  timestamp replayed := replayed.first.timestamp

variable {replay : Replay}

theorem exists_replayed {first second : List ParsedRecord}
    (replays : List.Forall₂ replay.Replays first second) :
    ∃ stream : List (Replayed replay),
      stream.map Replayed.first = first ∧ stream.map Replayed.second = second :=
  exists_pairs_of_forall₂ (fun _ _ replays => ⟨⟨_, _, replays⟩, rfl, rfl⟩) replays

theorem replaysWindow_of_window (window : Window (Replayed replay)) :
    replay.ReplaysWindow (mapWindow Replayed.first window)
      (delayWindow replay.shift Replayed.second window) where
  startTime := rfl
  endTime := rfl
  records := by
    simp only [mapWindow, delayWindow, List.forall₂_map_left_iff,
      List.forall₂_map_right_iff]
    exact List.forall₂_same.mpr fun replayed _ => replayed.replays

theorem replaysWindow_evaluatedWindows {first second : List ParsedRecord}
    (replays : List.Forall₂ replay.Replays first second) :
    List.Forall₂ replay.ReplaysWindow (evaluatedWindows {} first)
      (evaluatedWindows {} second) := by
  rcases exists_replayed replays with ⟨stream, rfl, rfl⟩
  have firsts := WindowManager.map_emittedWindows_of_sameTime Replayed.first
    (fun _ => rfl) (milliseconds 5000) (milliseconds 1000) stream
  have later : ∀ replayed : Replayed replay,
      timestamp replayed.second = timestamp replayed + replay.shift :=
    fun replayed => replayed.replays.timestamp
  have seconds := WindowManager.map_emittedWindows_of_delay later (milliseconds 5000)
    (milliseconds 1000) stream
  apply forall₂_evaluatedWindows replaysWindow_of_window _ firsts seconds
  intro window
  simp [mapWindow, delayWindow]

/-! ## Both runs -/

/-- Traffic replayed at another time, with function codes and addresses renamed one to
one and any protocols, leads to the same windows at that time, the same decisions, the
same actions and the same attempts to reach the PLC, and it leaves the risk model and the
engine as they were left before. The order in which hash maps are visited has no
influence either. -/
theorem replayed_traffic_judged_alike (environment environment' : Environment)
    (sameAnswers : environment.answers = environment'.answers) (replay : Replay)
    (stream stream' : List CaptureOutcome)
    (replays : List.Forall₂ replay.Replays (stream.filterMap CaptureOutcome.kept)
      (stream'.filterMap CaptureOutcome.kept)) :
    let run := pollLoop ℝ environment {} stream
    let run' := pollLoop ℝ environment' {} stream'
    let final := (pipeline ℝ environment).finalState {}
      (stream.filterMap CaptureOutcome.kept)
    let final' := (pipeline ℝ environment').finalState {}
      (stream'.filterMap CaptureOutcome.kept)
    List.Forall₂ replay.ReplaysWindow (run.map Evaluation.window)
        (run'.map Evaluation.window) ∧
      run.map Evaluation.decision = run'.map Evaluation.decision ∧
      run.map (fun evaluation => (evaluation.action, evaluation.sends)) =
        run'.map (fun evaluation => (evaluation.action, evaluation.sends)) ∧
      final.riskModel = final'.riskModel ∧ final.enforcer = final'.enforcer := by
  intro run run' final final'
  have sameWindows := replaysWindow_evaluatedWindows replays
  have sameDetections := map_eq_of_forall₂
    (fun window window' same => detect_of_replays environment.orders environment'.orders
      same.records) sameWindows
  have sameDecisions : decisionsOn ℝ environment {} (evaluatedWindows {} _) =
      decisionsOn ℝ environment' {} (evaluatedWindows {} _) :=
    congrArg ((RiskModel.machine ℝ).outputs {}) sameDetections
  rcases evaluations_staged ℝ environment {} (stream.filterMap CaptureOutcome.kept) with
    ⟨windows, decisions, acted⟩
  rcases evaluations_staged ℝ environment' {} (stream'.filterMap CaptureOutcome.kept) with
    ⟨windows', decisions', acted'⟩
  rcases finalState_staged ℝ environment {} (stream.filterMap CaptureOutcome.kept) with
    ⟨_, model, engine⟩
  rcases finalState_staged ℝ environment' {} (stream'.filterMap CaptureOutcome.kept) with
    ⟨_, model', engine'⟩
  rw [show run = _ from pollLoop_eq_evaluations environment stream,
    show run' = _ from pollLoop_eq_evaluations environment' stream']
  refine ⟨?_, ?_, ?_, ?_, ?_⟩
  · rw [windows, windows']
    exact sameWindows
  · rw [decisions, decisions']
    exact sameDecisions
  · rw [acted, acted', sameDecisions, sameAnswers]
  · exact model.trans ((congrArg _ sameDetections).trans model'.symm)
  · rw [sameDecisions, sameAnswers] at engine
    exact congrArg Attempting.engine (engine.trans engine'.symm)

/-- A poll of coils replayed as one of input registers of another device, one hour later
and with a call that fails in between. -/
theorem replayed_poll_judged_alike :
    let environment : Environment := ⟨.byInsertion, fun _ => .reachable⟩
    let poll (seconds : Int) (code address : UInt8) : RawPacket :=
      { timestamp := milliseconds (1000 * seconds)
        payload := [0, 1, 0, 0, 0, 6, 1, code, 0, address, 0, 1]
        srcPort := 40000
        dstPort := 502 }
    let stream := [.captured (poll 0 1 16), .captured (poll 5 1 16)]
    let stream' := [.captured (poll 3600 4 56), .failed {}, .captured (poll 3605 4 56)]
    (pollLoop ℝ environment {} stream).map Evaluation.decision =
      (pollLoop ℝ environment {} stream').map Evaluation.decision := by
  intro environment poll stream stream'
  let replay : Replay :=
    { shift := milliseconds 3600000
      functions := fun code => code + 3
      addresses := fun address => address + 40
      functionsInjective := fun _ _ => (UInt8.add_left_inj 3).mp
      addressesInjective := fun _ _ => (UInt16.add_left_inj 40).mp }
  let record (seconds : Int) (code : UInt8) (address : UInt16) : ParsedRecord :=
    { timestamp := milliseconds (1000 * seconds), protocol := "Modbus"
      functionCode := code, address := address }
  have kept : stream.filterMap CaptureOutcome.kept = [record 0 1 16, record 5 1 16] := by
    decide +kernel
  have kept' : stream'.filterMap CaptureOutcome.kept =
      [record 3600 4 56, record 3605 4 56] := by
    decide +kernel
  have replays : List.Forall₂ replay.Replays (stream.filterMap CaptureOutcome.kept)
      (stream'.filterMap CaptureOutcome.kept) := by
    rw [kept, kept']
    exact .cons ⟨by decide, rfl, by decide, by decide⟩
      (.cons ⟨by decide, rfl, by decide, by decide⟩ .nil)
  exact (replayed_traffic_judged_alike environment environment rfl replay stream stream'
    replays).2.1

end Prism.System

import Prism.Enforcement.Sends
import Prism.Foundation.Stages
import Prism.Main.Loops
import Prism.Main.QuietRuns

/-! # The pipeline in stages

The loops of `main` take every record through all stages before they take the
next. The same evaluations come from whole runs of the stages, one after another:
the windows of the stream, their detections, the decisions on these and the sends
they lead to.
-/

namespace Prism.Main

open Prism.Enforcement Prism.Risk Prism.Windowing

/-! ## The stages -/

/-- The first stage hands on the windows that are evaluated: those that are
emitted with at least one record in them. -/
def windowing : Machine (WindowManager ParsedRecord) ParsedRecord
    (Option (ParsedRecord × Window)) where
  step manager record :=
    let result := manager.addRecord record {}
    (result.manager,
      if result.emitted && !result.outWindow.records.isEmpty then
        some (record, result.outWindow)
      else
        none)

theorem windowing_step_fst (manager : WindowManager ParsedRecord)
    (record : ParsedRecord) :
    (windowing.step manager record).1 =
      ((WindowManager.machine ParsedRecord).step manager record).1 := rfl

theorem windowing_step_snd (manager : WindowManager ParsedRecord)
    (record : ParsedRecord) :
    (windowing.step manager record).2.toList.map Prod.snd =
      ((WindowManager.machine ParsedRecord).step manager record).2.toList.filter
        fun window => !window.records.isEmpty := by
  simp only [windowing, WindowManager.machine]
  cases emitted : (manager.addRecord record {}).emitted with
  | false => rfl
  | true =>
      cases empty : (manager.addRecord record {}).outWindow.records.isEmpty with
      | true => simp [empty]
      | false => simp [empty]

theorem windows_of_windowing (manager : WindowManager ParsedRecord)
    (records : List ParsedRecord) :
    (windowing.outputs manager records).reduceOption.map Prod.snd =
      ((WindowManager.machine ParsedRecord).outputs manager
        records).reduceOption.filter fun window => !window.records.isEmpty := by
  induction records generalizing manager with
  | nil => rfl
  | cons record records induction =>
      rw [Machine.outputs_cons, Machine.outputs_cons, Machine.reduceOption_cons,
        Machine.reduceOption_cons, List.map_append, List.filter_append,
        windowing_step_snd, induction, windowing_step_fst]

theorem finalState_windowing (manager : WindowManager ParsedRecord)
    (records : List ParsedRecord) :
    windowing.finalState manager records =
      (WindowManager.machine ParsedRecord).finalState manager records := by
  induction records generalizing manager with
  | nil => rfl
  | cons record records induction => exact induction _

variable {Double : Type} [DoubleArithmetic Double]

/-- Windows, decisions on their detections, sends on these. -/
def stages (Double : Type) [DoubleArithmetic Double] (environment : Environment) :
    Machine ((WindowManager ParsedRecord × RiskModel) × Attempting) ParsedRecord
      (Option (((ParsedRecord × Window) × RiskDecision Double) × String × List Send)) :=
  (windowing.cascade (fun handed => detect environment.orders handed.2)
    (RiskModel.machine Double)).cascade Prod.snd
    (Attempting.machine Double environment.answers)

/-! ## The pipeline follows them -/

def Components.stages (components : Components) :
    (WindowManager ParsedRecord × RiskModel) × Attempting :=
  ((components.windowManager, components.riskModel),
    ⟨components.enforcer, components.attempts⟩)

def Evaluation.stages (evaluation : Evaluation Double) :
    ((ParsedRecord × Window) × RiskDecision Double) × String × List Send :=
  (((evaluation.record, evaluation.window), evaluation.decision),
    evaluation.action, evaluation.sends)

variable (Double) in
theorem pipeline_step_cases (environment : Environment) (components : Components)
    (record : ParsedRecord) :
    let result := components.windowManager.addRecord record {}
    let moved := { components with windowManager := result.manager }
    let assessed : Components × Evaluation Double :=
      moved.assess environment record result.outWindow
    let next := (pipeline Double environment).step components record
    ((result.emitted = false ∨ result.outWindow.records = []) ∧ next = (moved, none)) ∨
      ((result.emitted = true ∧ result.outWindow.records ≠ []) ∧
        next = (assessed.1, some assessed.2)) := by
  intro result moved assessed next
  by_cases evaluated : result.emitted = true ∧ result.outWindow.records ≠ []
  · exact .inr ⟨evaluated,
      pipeline_step_of_evaluated evaluated.1 evaluated.2 environment⟩
  · rw [not_and_or, Bool.not_eq_true, not_not] at evaluated
    exact .inl ⟨evaluated, pipeline_step_of_skipped evaluated environment⟩

theorem stages_step (environment : Environment) (components : Components)
    (record : ParsedRecord) :
    let next := (pipeline Double environment).step components record
    (stages Double environment).step components.stages record =
      (next.1.stages, next.2.map Evaluation.stages) := by
  intro next
  let result := components.windowManager.addRecord record {}
  rcases pipeline_step_cases Double environment components record with
    ⟨skipped, isNext⟩ | ⟨⟨emitted, nonempty⟩, isNext⟩
  · have silent : (windowing.step components.windowManager record).2 = none := by
      simp only [windowing]
      apply if_neg
      rcases skipped with notEmitted | empty
      · simp [notEmitted]
      · simp [empty]
    have passed := Machine.cascade_step_of_none windowing
      (fun handed => detect environment.orders handed.2) (RiskModel.machine Double)
      silent components.riskModel
    rw [show next = _ from isNext, stages, Components.stages,
      Machine.cascade_step_of_none _ _ _ (congrArg Prod.snd passed), passed]
    rfl
  · have handed : (windowing.step components.windowManager record).2 =
        some (record, result.outWindow) := by
      simp only [windowing, emitted, Bool.true_and]
      rw [if_pos (by simpa using nonempty)]
    have decided := Machine.cascade_step_of_some windowing
      (fun handed => detect environment.orders handed.2) (RiskModel.machine Double)
      handed components.riskModel
    rw [show next = _ from isNext, stages, Components.stages,
      Machine.cascade_step_of_some _ _ _ (congrArg Prod.snd decided), decided]
    rfl

def followsStages (Double : Type) [DoubleArithmetic Double]
    (environment : Environment) :
    Machine.Simulation (pipeline Double environment) (stages Double environment) id
      (Option.map Evaluation.stages) where
  Related components states := components.stages = states
  next := by
    intro components states related record
    rw [← related]
    exact (congrArg Prod.fst (stages_step environment components record)).symm
  output := by
    intro components states related record
    rw [← related]
    exact (congrArg Prod.snd (stages_step environment components record)).symm

/-! ## Runs -/

section Runs

variable (Double) in
def evaluations (environment : Environment) (components : Components)
    (records : List ParsedRecord) : List (Evaluation Double) :=
  ((pipeline Double environment).outputs components records).reduceOption

def evaluatedWindows (components : Components) (records : List ParsedRecord) :
    List Window :=
  ((WindowManager.machine ParsedRecord).outputs components.windowManager
    records).reduceOption.filter fun window => !window.records.isEmpty

/-- Of two runs whose windows come from those of one stream, the evaluated ones
correspond as the windows do. -/
theorem forall₂_evaluatedWindows {Record : Type} [Timestamped Record]
    {Related : Window → Window → Prop} {first second : Window Record → Window}
    (related : ∀ window, Related (first window) (second window))
    (sameEmpty : ∀ window,
      (second window).records.isEmpty = (first window).records.isEmpty)
    {stream : List Record} {records records' : List ParsedRecord}
    (firsts : (WindowManager.emittedWindows (milliseconds 5000) (milliseconds 1000)
      stream).map first =
        WindowManager.emittedWindows (milliseconds 5000) (milliseconds 1000) records)
    (seconds : (WindowManager.emittedWindows (milliseconds 5000) (milliseconds 1000)
      stream).map second =
        WindowManager.emittedWindows (milliseconds 5000) (milliseconds 1000) records') :
    List.Forall₂ Related (evaluatedWindows {} records) (evaluatedWindows {} records') := by
  have evaluated : ∀ records : List ParsedRecord, evaluatedWindows {} records =
      (WindowManager.emittedWindows (milliseconds 5000) (milliseconds 1000)
        records).filter fun window => !window.records.isEmpty := fun _ => rfl
  have sameFilter : (fun window : Window => !window.records.isEmpty) ∘ second =
      (fun window : Window => !window.records.isEmpty) ∘ first := by
    funext window
    exact congrArg not (sameEmpty window)
  rw [evaluated, evaluated, ← firsts, ← seconds, List.filter_map, List.filter_map,
    sameFilter, List.forall₂_map_left_iff, List.forall₂_map_right_iff]
  exact List.forall₂_same.mpr fun window _ => related window

variable (Double) in
def decisionsOn (environment : Environment) (model : RiskModel)
    (windows : List Window) : List (RiskDecision Double) :=
  (RiskModel.machine Double).outputs model
    (windows.map (detect environment.orders))

variable (Double) (environment : Environment) (components : Components)
  (records : List ParsedRecord)

theorem map_stages_evaluations :
    (evaluations Double environment components records).map Evaluation.stages =
      ((stages Double environment).outputs components.stages records).reduceOption := by
  have same := (followsStages Double environment).outputs
    (rfl : components.stages = components.stages) records
  rw [List.map_id] at same
  rw [evaluations, ← same, List.reduceOption_map]

theorem first_stages :
    let run := windowing.cascade (fun handed => detect environment.orders handed.2)
      (RiskModel.machine Double)
    let reported := (run.outputs (components.windowManager, components.riskModel)
      records).reduceOption
    reported.map (fun output => output.1.2) = evaluatedWindows components records ∧
      reported.map Prod.snd = decisionsOn Double environment components.riskModel
        (evaluatedWindows components records) := by
  intro run reported
  rcases Machine.outputs_cascade windowing
    (fun handed => detect environment.orders handed.2) (RiskModel.machine Double)
    components.windowManager components.riskModel records with ⟨handed, decided⟩
  constructor
  · rw [evaluatedWindows, ← windows_of_windowing, ← handed, List.map_map]
    rfl
  · rw [decided, decisionsOn, evaluatedWindows, ← windows_of_windowing, List.map_map]
    rfl

/-- The evaluations of a run, from whole runs of the stages: the windows that are
evaluated, the decisions on them, and the reports and sends on these. -/
theorem evaluations_staged :
    let windows := evaluatedWindows components records
    let decisions := decisionsOn Double environment components.riskModel windows
    let run := evaluations Double environment components records
    run.map Evaluation.window = windows ∧
      run.map Evaluation.decision = decisions ∧
      run.map (fun evaluation => (evaluation.action, evaluation.sends)) =
        (Attempting.machine Double environment.answers).outputs
          ⟨components.enforcer, components.attempts⟩ decisions := by
  intro windows decisions run
  rcases first_stages Double environment components records with
    ⟨sameWindows, sameDecisions⟩
  rcases Machine.outputs_cascade (windowing.cascade
    (fun handed => detect environment.orders handed.2) (RiskModel.machine Double))
    Prod.snd (Attempting.machine Double environment.answers)
    (components.windowManager, components.riskModel)
    ⟨components.enforcer, components.attempts⟩ records with ⟨reported, acted⟩
  have staged := map_stages_evaluations Double environment components records
  have inner := (congrArg (List.map Prod.fst) staged).trans reported
  rw [List.map_map] at inner
  have outer := congrArg (List.map Prod.snd) staged
  rw [List.map_map] at outer
  refine ⟨?_, ?_, ?_⟩
  · refine Eq.trans ?_ sameWindows
    rw [← inner, List.map_map]
    rfl
  · refine Eq.trans ?_ sameDecisions
    rw [← inner, List.map_map]
    rfl
  · rw [sameDecisions] at acted
    exact outer.trans acted

theorem finalState_staged :
    let windows := evaluatedWindows components records
    let decisions := decisionsOn Double environment components.riskModel windows
    let final := (pipeline Double environment).finalState components records
    final.windowManager = (WindowManager.machine ParsedRecord).finalState
        components.windowManager records ∧
      final.riskModel = (RiskModel.machine Double).finalState components.riskModel
        (windows.map (detect environment.orders)) ∧
      (⟨final.enforcer, final.attempts⟩ : Attempting) =
        (Attempting.machine Double environment.answers).finalState
          ⟨components.enforcer, components.attempts⟩ decisions := by
  intro windows decisions final
  have related := (followsStages Double environment).finalState
    (rfl : components.stages = components.stages) records
  rw [List.map_id] at related
  have ends : final.stages = (stages Double environment).finalState components.stages
    records := related
  rw [stages, Components.stages, Machine.finalState_cascade,
    Machine.finalState_cascade, finalState_windowing] at ends
  refine ⟨congrArg (fun states => states.1.1) ends, ?_, ?_⟩
  rotate_left
  · refine (congrArg Prod.snd ends).trans ?_
    exact congrArg _ (first_stages Double environment components records).2
  refine (congrArg (fun states => states.1.2) ends).trans ?_
  simp only [windows, evaluatedWindows, ← windows_of_windowing, List.map_map]
  rfl

/-- What an engine that is not locked sends over a run: one attempt for each
decision that restricts writes, up to the first that succeeds. Afterwards it is
locked exactly if one did. -/
theorem sends_evaluations (unlocked : components.enforcer.locked = false) :
    let decisions := decisionsOn Double environment components.riskModel
      (evaluatedWindows components records)
    let possible := Attempting.attemptsFrom environment.answers components.attempts
      (decisions.countP Attempting.restricts)
    (evaluations Double environment components records).flatMap Evaluation.sends =
        upToFirst Send.sent possible ∧
      (((pipeline Double environment).finalState components
          records).enforcer.locked = true ↔
        ∃ send ∈ possible, send.sent = true) := by
  intro decisions possible
  have fresh : (⟨components.enforcer, components.attempts⟩ :
      Attempting).engine.locked = false := unlocked
  have acted := (evaluations_staged Double environment components records).2.2
  have ends := (finalState_staged Double environment components records).2.2
  rcases Attempting.run_of_unlocked environment.answers fresh decisions with
    ⟨sent, locked⟩
  constructor
  · rw [← acted, List.flatMap_map] at sent
    exact sent
  · rw [← ends] at locked
    exact locked

end Runs

/-! ## The loops -/

theorem pollLoop_eq_evaluations (environment : Environment)
    (stream : List CaptureOutcome) :
    pollLoop Double environment {} stream =
      evaluations Double environment {} (stream.filterMap CaptureOutcome.kept) :=
  (pollLoop_eq_fallbackLoop environment {} stream).trans
    (fallbackLoop_eq_pipeline environment {} stream)

/-- The loops of `main`, on any outcomes of the capture, come to what the stages
come to one after another. The windows evaluated are the nonempty ones that the
records kept make a fresh manager emit, the decisions are those of a fresh risk
model on their detections, and on the wire there is one attempt to engage the
coil for each High decision that restricts writes, up to the first attempt that
succeeds. -/
theorem loops_run_in_stages (environment : Environment)
    (stream : List CaptureOutcome) :
    let records := stream.filterMap CaptureOutcome.kept
    let windows := (WindowManager.emittedWindows (milliseconds 5000)
      (milliseconds 1000) records).filter fun window => !window.records.isEmpty
    let decisions := (RiskModel.machine Double).outputs {}
      (windows.map (detect environment.orders))
    let attempts := (List.range (decisions.countP Attempting.restricts)).map
      fun attempt => sendSafetyCoil (environment.answers attempt) 0xFF00
    ∀ run ∈ [pollLoop Double environment {} stream,
        fallbackLoop Double environment {} stream],
      run.map Evaluation.window = windows ∧
        run.map Evaluation.decision = decisions ∧
        run.flatMap Evaluation.sends = upToFirst Send.sent attempts := by
  intro records windows decisions attempts
  have staged := evaluations_staged Double environment {} records
  have sent := (sends_evaluations Double environment {} records rfl).1
  have numbered : attempts = Attempting.attemptsFrom environment.answers 0
      (decisions.countP Attempting.restricts) := by
    simp only [attempts, Attempting.attemptsFrom, List.range_eq_range']
  intro run member
  have isRun : run = evaluations Double environment {} records := by
    rcases List.mem_cons.mp member with isPoll | isLast
    · exact isPoll.trans (pollLoop_eq_evaluations environment stream)
    · exact (List.mem_singleton.mp isLast).trans
        (fallbackLoop_eq_pipeline environment {} stream)
  rw [isRun, numbered]
  exact ⟨staged.1, staged.2.1, sent⟩

end Prism.Main

import Prism.Foundation.Texts
import Prism.Main.Stages
import Prism.Utils.ProgressBar

/-! # The log

The lines that an evaluation adds to the log, and what the operator can read back from
their texts.
-/

namespace Prism.Main

open Prism.Enforcement Prism.Risk Prism.Utils

/-! ## Lines -/

inductive LogLevel
  | info
  | warn
  | error
  deriving DecidableEq, Repr

structure LogLine where
  level : LogLevel
  text : String
  deriving DecidableEq, Repr

def fcName (proto : String) (fc : UInt8) : String :=
  if proto = "Modbus" then
    match fc with
    | 1 => "Read Coils"
    | 2 => "Read Discrete Inputs"
    | 3 => "Read Holding Registers"
    | 4 => "Read Input Registers"
    | 5 => "Write Single Coil"
    | 6 => "Write Single Register"
    | 8 => "Diagnostics"
    | 15 => "Write Multiple Coils"
    | 16 => "Write Multiple Registers"
    | _ => "Unknown"
  else if proto = "DNP3" then
    match fc with
    | 1 => "Read"
    | 2 => "Write"
    | 3 => "Select"
    | 4 => "Operate"
    | 130 => "Unsolicited Response"
    | _ => "FC " ++ toString fc.toNat
  else if proto = "IEC104" then
    match fc with
    | 1 => "Single Point Info"
    | 13 => "Measured Float"
    | 30 => "Single Point w/ Timestamp"
    | 45 => "Single Command"
    | 46 => "Double Command"
    | 100 => "Interrogation"
    | _ => "Type " ++ toString fc.toNat
  else "Unknown"

section Lines

variable {Double : Type} [DoubleArithmetic Double] [Truncating Double]

/-- What `apply` logs before it returns. -/
def enforcementLines (action : String) : List LogLine :=
  if action = EnforcementEngine.engagedReport then
    [⟨.error, "ENFORCEMENT: Safety coil 0xFFFF engaged — " ++
      "write-lock signal sent to PLC (Modbus FC5)"⟩]
  else
    []

def alertLevel : RiskLevel → LogLevel
  | .High => .error
  | .Medium => .warn
  | .Low => .info

/-- The alert line. Numbers are printed by `fixed`, with so many digits. -/
def alertText (fixed : Nat → Double → String) (decision : RiskDecision Double)
    (action : String) : String :=
  let label := getFuzzyLabel decision.probability
  let bar := getProgressBar decision.probability
  let pct := fixed 2 (decision.probability * 100.0) ++ "%"
  "ALERT: " ++ label ++ " " ++ bar ++ " Risk: " ++ pct ++ " — " ++ action

def identityText (record : ParsedRecord) : String :=
  let dir := if record.isRequest then "Request" else "Response"
  let fcLabel := fcName record.protocol record.functionCode
  " " ++ record.protocol ++ " " ++ dir ++
    " | FC " ++ toString record.functionCode.toNat ++
    " (" ++ fcLabel ++ ")" ++
    " | Address: " ++ toString record.address.toNat

/-- The analysis metrics. The extractor always fills eight values. -/
def metricsText (fixed : Nat → Double → String) (fv : FeatureVector Double) : String :=
  match fv.values with
  | packets :: writeRatio :: funcConc :: entropy :: protoDom :: _ :: _ :: density :: _ =>
      " Packets: " ++ fixed 0 packets ++
        " | Write%: " ++ fixed 0 (writeRatio * 100.0) ++
        " | Func Spread: " ++ fixed 2 funcConc ++
        " | Entropy: " ++ fixed 2 entropy ++
        " | Proto Mix: " ++ fixed 2 protoDom ++
        " | Density: " ++ fixed 2 density
  | _ => ""

def Evaluation.log (fixed : Nat → Double → String) (evaluation : Evaluation Double) :
    List LogLine :=
  enforcementLines evaluation.action ++
    [⟨alertLevel evaluation.decision.level,
        alertText fixed evaluation.decision evaluation.action⟩,
      ⟨.info, identityText evaluation.record⟩,
      ⟨.info, metricsText fixed evaluation.features⟩]

end Lines

/-! ## Reading the log -/

/-- The strings that `apply` returns. -/
def actions : List String :=
  ["Monitoring only", "Alert operators", EnforcementEngine.engagedReport,
    EnforcementEngine.failedReport, EnforcementEngine.activeReport,
    "Escalation without restriction"]

structure Alert where
  level : LogLevel
  label : String
  cells : Nat
  action : String
  deriving DecidableEq, Repr

/-- The alert of a line, if it is one: its first word, the bar behind it, and the action
it ends with. -/
def readAlert (line : LogLine) : Option Alert := do
  let rest ← line.text.toList.dropPrefix? "ALERT: ".toList
  let label := rest.takeWhile fun next => next != ' '
  let bar := (rest.drop (label.length + 1)).take 22
  let action ← Texts.findEnding (actions.map String.toList) rest
  return ⟨line.level, String.ofList label, bar.count '#', String.ofList action⟩

section Reading

variable {Double : Type} [DoubleArithmetic Double] [Truncating Double]

def Evaluation.alert (evaluation : Evaluation Double) : Alert where
  level := alertLevel evaluation.decision.level
  label := getFuzzyLabel evaluation.decision.probability
  cells := cells evaluation.decision.probability
  action := evaluation.action

omit [Truncating Double] in
theorem getFuzzyLabel_noSpace (p : Double) : ' ' ∉ (getFuzzyLabel p).toList := by
  unfold getFuzzyLabel
  split
  · decide
  · split
    · decide
    · split <;> decide

/-- No action ends with another. -/
theorem actions_unambiguous : ∀ first ∈ actions.map String.toList,
    ∀ second ∈ actions.map String.toList, first <:+ second → first = second := by
  decide +kernel

theorem toList_alertText (fixed : Nat → Double → String)
    (decision : RiskDecision Double) (action : String) :
    ∃ middle, (alertText fixed decision action).toList =
      "ALERT: ".toList ++ ((getFuzzyLabel decision.probability).toList ++
        ' ' :: ((getProgressBar decision.probability).toList ++
          (middle ++ action.toList))) := by
  refine ⟨" Risk: ".toList ++ ((fixed 2 (decision.probability * 100.0)).toList ++
    ("%".toList ++ " — ".toList)), ?_⟩
  have space : " ".toList = [' '] := by decide
  simp only [alertText, String.toList_append, space, List.append_assoc, List.cons_append,
    List.nil_append]

theorem readAlert_alertText (fixed : Nat → Double → String)
    {evaluation : Evaluation Double} (known : evaluation.action ∈ actions) :
    readAlert ⟨alertLevel evaluation.decision.level,
        alertText fixed evaluation.decision evaluation.action⟩ =
      some evaluation.alert := by
  rcases toList_alertText fixed evaluation.decision evaluation.action with
    ⟨middle, isText⟩
  let label := (getFuzzyLabel evaluation.decision.probability).toList
  let bar := (getProgressBar evaluation.decision.probability).toList
  let behind := bar ++ (middle ++ evaluation.action.toList)
  have isLabel : (label ++ ' ' :: behind).takeWhile (fun next => next != ' ') = label :=
    Texts.takeWhile_field (getFuzzyLabel_noSpace _) behind
  have isBehind : (label ++ ' ' :: behind).drop (label.length + 1) = behind := by
    rw [List.drop_append]
    simp
  have isBar : behind.take 22 = bar := by
    have length : bar.length = 22 := length_getProgressBar _ (by decide)
    rw [← length]
    exact List.take_left
  have isAction : Texts.findEnding (actions.map String.toList) (label ++ ' ' :: behind) =
      some evaluation.action.toList := by
    have front : label ++ ' ' :: behind =
        (label ++ ' ' :: (bar ++ middle)) ++ evaluation.action.toList := by
      simp [behind]
    rw [front]
    exact Texts.findEnding_append actions_unambiguous (List.mem_map_of_mem known) _
  rw [readAlert, isText, Texts.dropPrefix?_append]
  change (Texts.findEnding _ (label ++ ' ' :: behind)).bind _ = _
  rw [isAction, Option.bind_some]
  change some (Alert.mk _ _ _ _) = _
  rw [isLabel, isBehind, isBar, String.ofList_toList, String.ofList_toList,
    count_getProgressBar]
  rfl

omit [DoubleArithmetic Double] [Truncating Double] in
theorem readAlert_eq_none {line : LogLine} {next : Char} {rest : List Char}
    (isText : line.text.toList = next :: rest) (different : next ≠ 'A') :
    readAlert line = none := by
  have alert : "ALERT: ".toList = ['A', 'L', 'E', 'R', 'T', ':', ' '] := by decide
  have notPrefix : ¬"ALERT: ".toList <+: line.text.toList := by
    rw [alert, isText, List.cons_prefix_cons]
    exact fun both => different both.1.symm
  rw [readAlert, Texts.dropPrefix?_eq_none notPrefix]
  rfl

/-- Each evaluation leaves one alert in the log, and the other lines cannot be taken for
one. -/
theorem filterMap_readAlert_log (fixed : Nat → Double → String)
    {evaluation : Evaluation Double} (known : evaluation.action ∈ actions) :
    (evaluation.log fixed).filterMap readAlert = [evaluation.alert] := by
  have enforcement : (enforcementLines evaluation.action).filterMap readAlert = [] := by
    unfold enforcementLines
    split
    · decide +kernel
    · rfl
  have identity : readAlert ⟨.info, identityText evaluation.record⟩ = none := by
    have start : ∃ rest, (identityText evaluation.record).toList = ' ' :: rest := by
      have space : " ".toList = [' '] := by decide
      simp only [identityText, String.toList_append, space, List.cons_append,
        List.append_assoc]
      exact ⟨_, rfl⟩
    rcases start with ⟨rest, isText⟩
    exact readAlert_eq_none isText (by decide)
  have metrics : readAlert ⟨.info, metricsText fixed evaluation.features⟩ = none := by
    unfold metricsText
    split
    · have packets : " Packets: ".toList = ' ' :: "Packets: ".toList := by decide
      apply readAlert_eq_none
      · simp only [String.toList_append, packets, List.cons_append, List.append_assoc]
        rfl
      · decide
    · decide +kernel
  rw [Evaluation.log, List.filterMap_append, enforcement, List.nil_append,
    List.filterMap_cons_some (readAlert_alertText fixed known),
    List.filterMap_cons_none identity, List.filterMap_cons_none metrics,
    List.filterMap_nil]

end Reading

/-! ## Logs of runs -/

section Runs

variable {Double : Type} [DoubleArithmetic Double]

theorem exists_assess_of_mem {environment : Environment} {components : Components}
    {records : List ParsedRecord} {evaluation : Evaluation Double}
    (member : evaluation ∈ evaluations Double environment components records) :
    ∃ (reached : Components) (record : ParsedRecord) (window : Window),
      evaluation = (reached.assess environment record window).2 := by
  rcases List.mem_iff_getElem?.mp (List.reduceOption_mem_iff.mp member) with
    ⟨index, atIndex⟩
  rw [Machine.getElem?_outputs, Option.map_eq_some_iff] at atIndex
  rcases atIndex with ⟨record, _, isOutput⟩
  let reached := (pipeline Double environment).finalState components (records.take index)
  rcases pipeline_step_cases Double environment reached record with
    ⟨_, isNext⟩ | ⟨_, isNext⟩
  · rw [isNext] at isOutput
    cases isOutput
  · rw [isNext] at isOutput
    exact ⟨_, _, _, (Option.some.inj isOutput).symm⟩

def isAttempt (action : String) : Bool :=
  action == EnforcementEngine.engagedReport || action == EnforcementEngine.failedReport

omit [DoubleArithmetic Double] in
theorem action_of_call (engine : EnforcementEngine) (call : Call Double) :
    let applied := engine.applyCall call
    applied.report ∈ actions ∧
      applied.sends.length = (if isAttempt applied.report then 1 else 0) ∧
      ((∃ send ∈ applied.sends, send.sent = true) ↔
        applied.report = EnforcementEngine.engagedReport) := by
  intro applied
  have known : applied.report ∈ actions := by
    rcases call with ⟨⟨level, escalate, restrictWrites, probability⟩, answers⟩
    cases level with
    | Low => exact List.mem_cons_self
    | Medium => exact List.mem_cons_of_mem _ List.mem_cons_self
    | High =>
        simp only [applied, EnforcementEngine.applyCall, EnforcementEngine.apply]
        split
        · split
          · split <;> simp [actions]
          · simp [actions]
        · simp [actions]
  refine ⟨known, ?_⟩
  rcases engine.applyCall_cases call with
    ⟨_, noSends, _, noReport⟩ | ⟨_, _, active⟩ | ⟨succeeds, _, engaged⟩ |
    ⟨_, notSent, _, failed⟩
  · have notAttempt : isAttempt applied.report = false := by
      rw [isAttempt, Bool.or_eq_false_iff, beq_eq_false_iff_ne, beq_eq_false_iff_ne]
      exact ⟨fun engaged => noReport (.inl engaged),
        fun failed => noReport (.inr (.inl failed))⟩
    have notEngaged : applied.report ≠ EnforcementEngine.engagedReport :=
      fun engaged => noReport (.inl engaged)
    rw [show applied.sends = [] from noSends, notAttempt]
    simp [notEngaged]
  · rw [show applied = _ from active]
    have notEngaged :
        EnforcementEngine.activeReport ≠ EnforcementEngine.engagedReport := by decide
    exact ⟨rfl, iff_of_false (by simp) notEngaged⟩
  · rw [show applied = _ from engaged]
    exact ⟨rfl, iff_of_true ⟨_, List.mem_singleton_self _, succeeds.2⟩ rfl⟩
  · rw [show applied = _ from failed]
    have notEngaged :
        EnforcementEngine.failedReport ≠ EnforcementEngine.engagedReport := by decide
    refine ⟨rfl, iff_of_false ?_ notEngaged⟩
    rintro ⟨send, isAttempt, sent⟩
    rw [List.mem_singleton.mp isAttempt, notSent] at sent
    cases sent

theorem action_of_mem {environment : Environment} {components : Components}
    {records : List ParsedRecord} {evaluation : Evaluation Double}
    (member : evaluation ∈ evaluations Double environment components records) :
    evaluation.action ∈ actions ∧
      evaluation.sends.length = (if isAttempt evaluation.action then 1 else 0) ∧
      ((∃ send ∈ evaluation.sends, send.sent = true) ↔
        evaluation.action = EnforcementEngine.engagedReport) := by
  rcases exists_assess_of_mem member with ⟨reached, record, window, rfl⟩
  exact action_of_call reached.enforcer ⟨_, environment.answers reached.attempts⟩

end Runs

/-! ## What the log tells -/

structure Alert.Consistent (alert : Alert) : Prop where
  label : alert.label =
    if alert.cells < 4 then "SAFE"
    else if alert.cells < 10 then "SUSPICIOUS"
    else if alert.cells < 16 then "THREAT"
    else "CRITICAL"
  cells : alert.cells ≤ 20
  error_of_full : 14 ≤ alert.cells → alert.level = .error
  full_of_error : alert.level = .error → 10 ≤ alert.cells
  full_of_warn : alert.level = .warn → 8 ≤ alert.cells
  cells_of_info : alert.level = .info → alert.cells ≤ 8

theorem probability_of_level (model : RiskModel) (detection : DetectionResult ℝ) :
    let decision := (model.evaluate detection).2
    (decision.level = .High ∧ 1 / 2 < decision.probability) ∨
      (decision.level = .Medium ∧ 0.4 < decision.probability ∧
        decision.probability < 7 / 10) ∨
      (decision.level = .Low ∧ decision.probability ≤ 0.4) := by
  intro decision
  have isProbability : decision.probability = RiskModel.pMax detection :=
    RiskModel.evaluate_probability model detection
  rw [isProbability]
  cases on : (model.evaluate detection).1.isOn with
  | true =>
      have high := (RiskModel.evaluate_level_eq_high_iff model detection).mpr on
      have above := RiskModel.tauOff_lt_of_high high
      rw [RiskModel.tauOff_real] at above
      exact .inl ⟨high, above⟩
  | false =>
      have below : RiskModel.pMax detection < 7 / 10 := by
        rw [← RiskModel.tauOn_real, ← not_le]
        intro reached
        rw [RiskModel.evaluate_isOn_of_tauOn_le model reached] at on
        cases on
      have level : decision.level = if 0.4 < RiskModel.pMax detection then .Medium
          else .Low := RiskModel.decision_level_of_off on _
      by_cases medium : 0.4 < RiskModel.pMax detection
      · exact .inr (.inl ⟨level.trans (if_pos medium), medium, below⟩)
      · exact .inr (.inr ⟨level.trans (if_neg medium), not_lt.mp medium⟩)

theorem Evaluation.alert_consistent {environment : Environment} {components : Components}
    {records : List ParsedRecord} {evaluation : Evaluation ℝ}
    (member : evaluation ∈ evaluations ℝ environment components records) :
    evaluation.alert.Consistent := by
  rcases exists_assess_of_mem member with ⟨reached, record, window, isAssessed⟩
  have range := probability_of_level reached.riskModel (detect environment.orders window)
  have isDecision : evaluation.decision =
      (reached.riskModel.evaluate (detect environment.orders window)).2 := by
    rw [isAssessed]
    rfl
  rw [← isDecision] at range
  let p := evaluation.decision.probability
  have eight := le_cells_iff p (show 0 < 8 by decide) (show 8 ≤ 20 by decide)
  have nine := le_cells_iff p (show 0 < 9 by decide) (show 9 ≤ 20 by decide)
  have ten := le_cells_iff p (show 0 < 10 by decide) (show 10 ≤ 20 by decide)
  have fourteen := le_cells_iff p (show 0 < 14 by decide) (show 14 ≤ 20 by decide)
  push_cast at eight nine ten fourteen
  have levels :
      (evaluation.alert.level = .error ∧ 10 ≤ evaluation.alert.cells) ∨
        (evaluation.alert.level = .warn ∧ 8 ≤ evaluation.alert.cells ∧
          evaluation.alert.cells < 14) ∨
        (evaluation.alert.level = .info ∧ evaluation.alert.cells ≤ 8) := by
    rcases range with ⟨high, above⟩ | ⟨medium, above, below⟩ | ⟨low, below⟩
    · exact .inl ⟨congrArg alertLevel high, ten.mpr (by linarith)⟩
    · refine .inr (.inl ⟨congrArg alertLevel medium, eight.mpr (by linarith), ?_⟩)
      exact not_le.mp fun full => absurd (fourteen.mp full) (by linarith)
    · refine .inr (.inr ⟨congrArg alertLevel low, ?_⟩)
      exact Nat.lt_succ_iff.mp (not_le.mp fun more => absurd (nine.mp more) (by linarith))
  refine ⟨getFuzzyLabel_eq_of_cells p, cells_le p, ?_, ?_, ?_, ?_⟩
  all_goals
    rcases levels with ⟨level, _⟩ | ⟨level, _, _⟩ | ⟨level, _⟩ <;> simp [level] <;> omega

theorem countP_isAttempt {run : List (Evaluation ℝ)}
    (each : ∀ evaluation ∈ run,
      evaluation.sends.length = if isAttempt evaluation.action then 1 else 0) :
    (run.countP fun evaluation => isAttempt evaluation.action) =
      (run.map fun evaluation => evaluation.sends.length).sum := by
  induction run with
  | nil => rfl
  | cons evaluation run induction =>
      rcases List.forall_mem_cons.mp each with ⟨here, later⟩
      rw [List.countP_cons, List.map_cons, List.sum_cons, here, induction later,
        Nat.add_comm]

/-- Everything the operator should know can be read from the texts of the log, however
numbers are printed: each evaluation with its level, label, cells and action, how often
the engine tried to reach the PLC, and whether it takes the lock for held. -/
theorem log_tells_run (fixed : Nat → ℝ → String) (environment : Environment)
    (stream : List CaptureOutcome) :
    let run := pollLoop ℝ environment {} stream
    let alerts := (run.flatMap (Evaluation.log fixed)).filterMap readAlert
    let final := (pipeline ℝ environment).finalState {}
      (stream.filterMap CaptureOutcome.kept)
    alerts = run.map Evaluation.alert ∧
      (∀ alert ∈ alerts, alert.Consistent) ∧
      (alerts.countP fun alert => isAttempt alert.action) =
        (run.flatMap Evaluation.sends).length ∧
      (final.enforcer.locked = true ↔
        ∃ alert ∈ alerts, alert.action = EnforcementEngine.engagedReport) := by
  intro run alerts final
  let records := stream.filterMap CaptureOutcome.kept
  have isRun : run = evaluations ℝ environment {} records :=
    pollLoop_eq_evaluations environment stream
  have ofRun : ∀ evaluation ∈ run,
      evaluation ∈ evaluations ℝ environment {} records := by
    intro evaluation member
    rw [← isRun]
    exact member
  have readBack : alerts = run.map Evaluation.alert := by
    have each : ∀ evaluation ∈ run,
        (evaluation.log fixed).filterMap readAlert = [evaluation.alert] := by
      intro evaluation inRun
      exact filterMap_readAlert_log fixed (action_of_mem (ofRun evaluation inRun)).1
    rw [show alerts = _ from List.filterMap_flatMap, List.flatMap_congr each,
      ← List.map_eq_flatMap]
  refine ⟨readBack, ?_, ?_, ?_⟩
  · intro alert member
    rw [readBack] at member
    rcases List.mem_map.mp member with ⟨evaluation, inRun, rfl⟩
    exact Evaluation.alert_consistent (ofRun evaluation inRun)
  · rw [readBack, List.countP_map, List.length_flatMap]
    exact countP_isAttempt fun evaluation inRun =>
      (action_of_mem (ofRun evaluation inRun)).2.1
  · rcases sends_evaluations ℝ environment {} records rfl with ⟨sends, locked⟩
    rw [readBack, locked, ← exists_mem_upToFirst_iff, ← sends, ← isRun]
    constructor
    · rintro ⟨send, isSend, sent⟩
      rcases List.mem_flatMap.mp isSend with ⟨evaluation, inRun, inSends⟩
      refine ⟨evaluation.alert, List.mem_map_of_mem inRun, ?_⟩
      exact (action_of_mem (ofRun evaluation inRun)).2.2.mp ⟨send, inSends, sent⟩
    · rintro ⟨alert, isAlert, engaged⟩
      rcases List.mem_map.mp isAlert with ⟨evaluation, inRun, rfl⟩
      rcases (action_of_mem (ofRun evaluation inRun)).2.2.mpr engaged with
        ⟨send, inSends, sent⟩
      exact ⟨send, List.mem_flatMap.mpr ⟨evaluation, inRun, inSends⟩, sent⟩

end Prism.Main

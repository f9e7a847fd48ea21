import Prism.Detection.Detectors
import Prism.Enforcement.EnforcementEngine
import Prism.Parser.Parsers
import Prism.Risk.RiskModel
import Prism.Windowing.WindowManager

/-! # The pipeline

What `main` computes from the records it keeps, apart from how its loops get
hold of them: windows, features, scores, decisions and enforcement.
-/

namespace Prism.Main

open Prism.Detection Prism.Enforcement Prism.Features Prism.Risk Prism.Windowing

/-- What the pipeline does not determine itself: how the hash maps are visited,
and how the network answers the successive attempts to reach the PLC. -/
structure Environment where
  orders : VisitOrders
  answers : Nat → SocketAnswers

/-- The objects of `main` that keep a state, and the number of attempts to reach
the PLC so far. -/
structure Components where
  windowManager : WindowManager ParsedRecord :=
    .create (milliseconds 5000) (milliseconds 1000)
  riskModel : RiskModel := {}
  enforcer : EnforcementEngine := {}
  attempts : Nat := 0
  deriving DecidableEq, Repr

structure Evaluation (Double : Type) where
  record : ParsedRecord
  window : Window
  features : FeatureVector Double
  detection : DetectionResult Double
  decision : RiskDecision Double
  action : String
  sends : List Send

variable {Double : Type} [DoubleArithmetic Double]

/-- From `extractor.compute` to `enforcer.apply`. Both loops of `main` contain
these statements. -/
def Components.assess (components : Components) (environment : Environment)
    (record : ParsedRecord) (window : Window) : Components × Evaluation Double :=
  let fv : FeatureVector Double := FeatureExtractor.compute environment.orders window
  let hstScore := HalfSpaceTrees.score fv
  let burstScore := BurstDetector.score fv
  let det := RiskModel.fuse hstScore burstScore
  let evaluated := components.riskModel.evaluate det
  let applied := components.enforcer.apply evaluated.2
    (environment.answers components.attempts)
  ({ components with
      riskModel := evaluated.1
      enforcer := applied.engine
      attempts := components.attempts + applied.sends.length },
    { record := record
      window := window
      features := fv
      detection := det
      decision := evaluated.2
      action := applied.report
      sends := applied.sends })

/-- From `extractor.compute` to `riskModel.fuse`. -/
def detect (orders : VisitOrders) (window : Window) : DetectionResult Double :=
  let fv : FeatureVector Double := FeatureExtractor.compute orders window
  RiskModel.fuse (HalfSpaceTrees.score fv) (BurstDetector.score fv)

def pipeline (Double : Type) [DoubleArithmetic Double] (environment : Environment) :
    Machine Components ParsedRecord (Option (Evaluation Double)) where
  step components record :=
    let result := components.windowManager.addRecord record {}
    let components := { components with windowManager := result.manager }
    if result.emitted && !result.outWindow.records.isEmpty then
      let assessed := components.assess environment record result.outWindow
      (assessed.1, some assessed.2)
    else
      (components, none)

end Prism.Main

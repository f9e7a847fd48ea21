import Prism.Feature.FeatureExtractor

/-! # The detectors

`HalfSpaceTrees::score` and `BurstDetector::score`.
-/

namespace Prism.Detection

open DoubleArithmetic

variable {Double : Type} [DoubleArithmetic Double]

namespace HalfSpaceTrees

def score (fv : FeatureVector Double) : Double :=
  if short : fv.values.length < 8 then
    0.0
  else
    let writeRisk := fv.values[1] * 50.0
    let funcRisk := fv.values[2] * 2.5
    let sprayRisk := fv.values[3] * fv.values[1] * 20.0
    writeRisk + funcRisk + sprayRisk

end HalfSpaceTrees

namespace BurstDetector

def BASE_SIGMA : Double := 0.05

def EPSILON : Double := 0.001

def score (fv : FeatureVector Double) : Double :=
  if short : fv.values.length < 8 then
    0.0
  else
    let currentSigma := fv.values[6]
    let varCurrent := currentSigma * currentSigma
    let varBase : Double := BASE_SIGMA * BASE_SIGMA
    let numerator := abs (varCurrent - varBase)
    let denominator : Double := EPSILON + BASE_SIGMA
    numerator / denominator

end BurstDetector

end Prism.Detection

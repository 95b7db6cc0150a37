import Augr.Robustness.Calculator

/-! The assessment of a family: the folds of every candidate, checked and put in order of their tests. -/

set_option autoImplicit false

namespace Augr.Robustness

open Foundation
open Evaluation (Report)
open Experimentrun (ExperimentMode canonicalText formatTime)

structure ScenarioInput where
  (kind severity : String)
  report : Option Report
  deriving DecidableEq

structure FoldInput where
  (trainStart trainEnd : Instant)
  baseline : Option Report
  perturbations : List ScenarioInput
  deriving DecidableEq

structure CandidateInput where
  versionID : Uuid
  folds : List FoldInput
  deriving DecidableEq

structure AssessmentInput where
  family : Option Family
  policy : Option Policy
  mode : ExperimentMode
  candidates : List CandidateInput

structure Fold where
  (trainStart trainEnd : Instant)
  baseline : Report
  perturbations : List ScenarioInput
  deriving DecidableEq

namespace Fold

def testStart (fold : Fold) : Instant := fold.baseline.evaluationStart

def testEnd (fold : Fold) : Instant := fold.baseline.evaluationEnd

end Fold

def FoldInput.require (fold : FoldInput) : Outcome Fold := do
  let baseline ← required (.errorf "assessment fold baseline is required" []) fold.baseline
  pure ⟨fold.trainStart, fold.trainEnd, baseline, fold.perturbations⟩

/-- Seconds as a duration: the product wraps around in 64 bits. -/
def secondsDuration (seconds : Int64) : Duration := (seconds * 1000000000).toInt

def foldInvalid (policy : Policy) (mode : ExperimentMode) (fold : Fold) : Bool :=
  !fold.trainStart.isCanonical || !fold.trainEnd.isCanonical || !fold.trainStart.before fold.trainEnd ||
    fold.baseline.mode != mode ||
    (fold.trainEnd.add (secondsDuration policy.canonical.purgeSeconds)).after fold.testStart

def followsBadly (policy : Policy) (prior fold : Fold) : Bool :=
  prior.testEnd.after fold.testStart ||
    (prior.testEnd.add (secondsDuration policy.canonical.embargoSeconds)).after fold.trainStart

def scenarioInvalid (mode : ExperimentMode) (fold : Fold) (report : Report) : Bool :=
  report.mode != mode || report.evaluationStart != fold.testStart || report.evaluationEnd != fold.testEnd ||
    report.canonical.policyID != fold.baseline.canonical.policyID

/-- One iteration of the loop over the perturbations of a fold, beside the kind that is required there. -/
def addScenario (mode : ExperimentMode) (fold : Fold) (sources : List Report) (entry : ScenarioInput × String) :
    Outcome (ScenarioEvidence × List Report) := do
  let (scenario, kind) := entry
  let refused := Fault.errorf "assessment perturbation %s is invalid" [scenario.kind]
  failIf (scenario.kind != kind || !canonicalText scenario.severity 128) refused
  let report ← required refused scenario.report
  failIf (scenarioInvalid mode fold report) refused
  pure (⟨scenario.kind, scenario.severity, report.id, report.digest⟩, sources ++ [report])

def addScenarios (mode : ExperimentMode) (fold : Fold) :
    List Report → List (ScenarioInput × String) → Outcome (List ScenarioEvidence × List Report)
  | sources, [] => pure ([], sources)
  | sources, entry :: rest => do
      let (evidence, stored) ← addScenario mode fold sources entry
      let (others, final) ← addScenarios mode fold stored rest
      pure (evidence :: others, final)

def sortScenarios (scenarios : List ScenarioInput) : List ScenarioInput :=
  sortedBy (fun (scenario : ScenarioInput) => byteOrder scenario.kind) scenarios

/-- A stored report of the same identity has the same content. -/
def conflicts (sources : List Report) (report : Report) : Bool :=
  (latest (·.id) sources report.id).any fun prior => prior.digest != report.digest

def addFold (policy : Policy) (mode : ExperimentMode) (prior : Option Fold) (index : Nat) (sources : List Report)
    (fold : Fold) : Outcome (FoldEvidence × List Report) := do
  failIf (foldInvalid policy mode fold) (.errorf "assessment fold %d is invalid" [Text.itoa index])
  failIf (prior.any fun last => followsBadly policy last fold)
    (.errorf "assessment fold embargo or test ordering is invalid" [])
  failIf (conflicts sources fold.baseline) (.errorf "report identity conflict" [])
  failIf (fold.perturbations.length != policy.canonical.requiredPerturbations.length)
    (.errorf "assessment fold perturbations are incomplete" [])
  let (perturbations, stored) ← addScenarios mode fold (sources ++ [fold.baseline])
    ((sortScenarios fold.perturbations).zip policy.canonical.requiredPerturbations)
  pure
    ({ sequence := index
       trainStart := formatTime fold.trainStart
       trainEnd := formatTime fold.trainEnd
       testStart := formatTime fold.testStart
       testEnd := formatTime fold.testEnd
       baseline := ⟨"baseline", "none", fold.baseline.id, fold.baseline.digest⟩
       perturbations := perturbations },
      stored)

/-- The loop over the folds of a candidate from one of them on. -/
def addFolds (policy : Policy) (mode : ExperimentMode) :
    Option Fold → Nat → List Report → List Fold → Outcome (List FoldEvidence × List Report)
  | _, _, sources, [] => pure ([], sources)
  | prior, index, sources, fold :: rest => do
      let (evidence, stored) ← addFold policy mode prior index sources fold
      let (others, final) ← addFolds policy mode (some fold) (index + 1) stored rest
      pure (evidence :: others, final)

def sortFolds (folds : List Fold) : List Fold := sortedBy (fun (fold : Fold) => fold.testStart.nanos) folds

def addCandidate (policy : Policy) (mode : ExperimentMode) (index : Nat) (sources : List Report)
    (entry : CandidateInput × Uuid) : Outcome (CandidateEvidence × List Report) := do
  let (candidate, expected) := entry
  failIf (candidate.versionID != expected || (candidate.folds.length : Int) != policy.canonical.foldCount)
    (.errorf "assessment candidate does not match search family or fold policy" [])
  let folds ← candidate.folds.mapM FoldInput.require
  let (evidence, stored) ← addFolds policy mode none 0 sources (sortFolds folds)
  pure (⟨index, candidate.versionID, evidence, [], []⟩, stored)

def addCandidates (policy : Policy) (mode : ExperimentMode) :
    Nat → List Report → List (CandidateInput × Uuid) → Outcome (List CandidateEvidence × List Report)
  | _, sources, [] => pure ([], sources)
  | index, sources, entry :: rest => do
      let (evidence, stored) ← addCandidate policy mode index sources entry
      let (others, final) ← addCandidates policy mode (index + 1) stored rest
      pure (evidence :: others, final)

def sortCandidates (candidates : List CandidateInput) : List CandidateInput :=
  sortedBy (fun (candidate : CandidateInput) => uuidOrder candidate.versionID) candidates

def canonicalCandidates (family : Family) (policy : Policy) (mode : ExperimentMode) (candidates : List CandidateInput) :
    Outcome (List CandidateEvidence × List Report) := do
  let familyIDs := family.canonical.candidateVersionIDs
  failIf (candidates.length != familyIDs.length) (.errorf "assessment candidate population is incomplete" [])
  addCandidates policy mode 0 [] ((sortCandidates candidates).zip familyIDs)

def Assessment.ofCanonical (canonical : AssessmentCanonical) : Assessment :=
  let encoded := canonical.marshal
  let digest := sha256Hex encoded
  ⟨canonical, encoded, digest,
    deterministicUUID "statistical-robustness-assessment" [assessmentSchemaV1 ++ "@sha256:" ++ digest]⟩

def newAssessment (F : Type) [Float64 F] [Elementary F] (input : AssessmentInput) : Outcome Assessment := do
  let refused := Fault.errorf "robustness assessment identity is invalid" []
  let family ← required refused input.family
  let policy ← required refused input.policy
  failIf (input.mode != .paperScored && input.mode != .paperStress) refused
  let (checked, sources) ← canonicalCandidates family policy input.mode input.candidates
  let candidates ← calculate F policy checked sources
  pure (.ofCanonical
    { familyID := family.id
      familySHA256 := family.digest
      policyID := policy.id
      policySHA256 := policy.digest
      mode := input.mode
      candidates := candidates })

end Augr.Robustness

import Augr.Evaluation.Report

/-! Robustness policies and search families, and the evidence an assessment records. -/

set_option autoImplicit false

namespace Augr.Robustness

open Foundation Json
open Experimentrun (ExperimentMode canonicalText digestPattern)
open Evaluation (decimalWhere nonnegative MetricState)

def policySchemaV1 : String := "robustness-policy-v1"

def familySchemaV1 : String := "robustness-search-family-v1"

def assessmentSchemaV1 : String := "statistical-robustness-assessment-v1"

def canonicalToken (value : String) : Bool :=
  canonicalText value 128 && (Text.characters value).all fun c => c == '_' || c == '-' || 'a' ≤ c && c ≤ 'z'

def isProbability (d : Decimal) : Bool := !d.isNegative && !d.greaterThan (.newFromInt 1)

def probability (value : String) : Bool := decimalWhere isProbability value

def sortStrings (values : List String) : List String := sortedBy byteOrder values

structure PolicyInput where
  version : String
  foldCount : Int
  (purgeSeconds embargoSeconds : Int64)
  bootstrapAlgorithm : String
  bootstrapSeed : UInt64
  bootstrapIterations : Int
  (confidenceLevel familyWiseAlpha maxLargestPositiveShare maxTopDecilePositiveShare : String)
  maxPerturbationDegradation : String
  requiredPerturbations : List String
  decimalScale : Int
  deriving DecidableEq

/-- The fields are private to the package: a policy comes from `newPolicy`. -/
structure Policy where
  canonical : PolicyInput
  bytes : RawMessage
  digest : String
  id : Uuid
  deriving DecidableEq

def PolicyInput.marshal (c : PolicyInput) : Bytes :=
  encodeObject [
    ("schema", quote policySchemaV1),
    ("version", quote c.version),
    ("fold_count", encodeInt c.foldCount),
    ("purge_seconds", encodeInt c.purgeSeconds.toInt),
    ("embargo_seconds", encodeInt c.embargoSeconds.toInt),
    ("bootstrap_algorithm", quote c.bootstrapAlgorithm),
    ("bootstrap_seed", encodeInt c.bootstrapSeed.toNat),
    ("bootstrap_iterations", encodeInt c.bootstrapIterations),
    ("confidence_level", quote c.confidenceLevel),
    ("family_wise_alpha", quote c.familyWiseAlpha),
    ("multiple_testing_correction", quote "holm_bonferroni"),
    ("max_largest_positive_share", quote c.maxLargestPositiveShare),
    ("max_top_decile_positive_share", quote c.maxTopDecilePositiveShare),
    ("max_perturbation_degradation", quote c.maxPerturbationDegradation),
    ("required_perturbations", encodeArray (c.requiredPerturbations.map quote)),
    ("decimal_scale", encodeInt c.decimalScale)]

def PolicyInput.invalid (input : PolicyInput) : Bool :=
  !canonicalText input.version 128 || input.foldCount < 2 || 1000 < input.foldCount || input.purgeSeconds.toInt < 0 ||
    input.embargoSeconds.toInt < 0 || input.bootstrapAlgorithm != "xorshift64star-iid-percentile-v1" ||
    input.bootstrapIterations < 100 || 100000 < input.bootstrapIterations ||
    !decimalWhere (fun d => isProbability d && !d.lessThan ⟨5, -1⟩) input.confidenceLevel ||
    !decimalWhere (fun d => isProbability d && !d.isZero) input.familyWiseAlpha ||
    !probability input.maxLargestPositiveShare || !probability input.maxTopDecilePositiveShare ||
    !nonnegative input.maxPerturbationDegradation || input.decimalScale < 6 || 18 < input.decimalScale ||
    input.requiredPerturbations.isEmpty || 64 < input.requiredPerturbations.length

/-- In a sorted list a repeated entry stands beside itself. -/
def repeats {α : Type} [DecidableEq α] (values : List α) : Bool := (values.zip values.tail).any fun pair => pair.1 == pair.2

def newPolicy (input : PolicyInput) : Outcome Policy := do
  let perturbations := sortStrings input.requiredPerturbations
  failIf input.invalid (.errorf "robustness policy is invalid" [])
  failIf (perturbations.any (fun value => !canonicalToken value) || repeats perturbations)
    (.errorf "required perturbations are invalid" [])
  let canonical := { input with requiredPerturbations := perturbations }
  let encoded := canonical.marshal
  let digest := sha256Hex encoded
  pure ⟨canonical, encoded, digest, deterministicUUID "robustness-policy" [policySchemaV1 ++ "@sha256:" ++ digest]⟩

structure FamilyInput where
  (name hypothesisSHA256 : String)
  candidateVersionIDs : List Uuid
  deriving DecidableEq

structure Family where
  canonical : FamilyInput
  bytes : RawMessage
  digest : String
  id : Uuid
  deriving DecidableEq

def FamilyInput.marshal (c : FamilyInput) : Bytes :=
  encodeObject [
    ("schema", quote familySchemaV1),
    ("name", quote c.name),
    ("hypothesis_sha256", quote c.hypothesisSHA256),
    ("candidate_version_ids", Experimentrun.marshalUuids c.candidateVersionIDs)]

/-- The order of identities is the order of their texts. -/
def uuidOrder (id : Uuid) : List Nat := byteOrder id.toText

def newFamily (input : FamilyInput) : Outcome Family := do
  let ids := sortedBy uuidOrder input.candidateVersionIDs
  failIf (!canonicalText input.name 256 || !digestPattern input.hypothesisSHA256 || ids.isEmpty || 10000 < ids.length)
    (.errorf "robustness search family is invalid" [])
  failIf (ids.contains Uuid.nil || repeats ids) (.errorf "robustness search family candidates are invalid" [])
  let canonical := { input with candidateVersionIDs := ids }
  let encoded := canonical.marshal
  let digest := sha256Hex encoded
  pure ⟨canonical, encoded, digest, deterministicUUID "robustness-search-family" [familySchemaV1 ++ "@sha256:" ++ digest]⟩

structure ScenarioEvidence where
  (kind severity : String)
  reportID : Uuid
  reportSHA256 : String
  deriving DecidableEq

structure FoldEvidence where
  sequence : Nat
  (trainStart trainEnd testStart testEnd : String)
  baseline : ScenarioEvidence
  perturbations : List ScenarioEvidence
  deriving DecidableEq

structure Statistic where
  name : String
  state : MetricState
  (value unit reason description : String)
  deriving DecidableEq

inductive GateState where
  | pass
  | fail
  deriving DecidableEq

def GateState.text : GateState → String
  | .pass => "pass"
  | .fail => "fail"

structure Gate where
  name : String
  state : GateState
  (threshold observed reason description : String)
  deriving DecidableEq

structure CandidateEvidence where
  sequence : Nat
  versionID : Uuid
  folds : List FoldEvidence
  statistics : List Statistic
  gates : List Gate
  deriving DecidableEq

structure AssessmentCanonical where
  familyID : Uuid
  familySHA256 : String
  policyID : Uuid
  policySHA256 : String
  mode : ExperimentMode
  candidates : List CandidateEvidence
  deriving DecidableEq

/-- The fields are private to the package: an assessment comes from `newAssessment`. -/
structure Assessment where
  canonical : AssessmentCanonical
  bytes : RawMessage
  digest : String
  id : Uuid
  deriving DecidableEq

def ScenarioEvidence.marshal (c : ScenarioEvidence) : Bytes :=
  encodeObject [
    ("kind", quote c.kind),
    ("severity", quote c.severity),
    ("report_id", quote c.reportID.toText),
    ("report_sha256", quote c.reportSHA256)]

def FoldEvidence.marshal (c : FoldEvidence) : Bytes :=
  encodeObject [
    ("sequence", encodeInt c.sequence),
    ("train_start", quote c.trainStart),
    ("train_end", quote c.trainEnd),
    ("test_start", quote c.testStart),
    ("test_end", quote c.testEnd),
    ("baseline", c.baseline.marshal),
    ("perturbations", encodeArray (c.perturbations.map ScenarioEvidence.marshal))]

def Statistic.marshal (c : Statistic) : Bytes :=
  encodeObject [
    ("name", quote c.name),
    ("state", quote c.state.text),
    ("value", quote c.value),
    ("unit", quote c.unit),
    ("reason", quote c.reason),
    ("description", quote c.description)]

def Gate.marshal (c : Gate) : Bytes :=
  encodeObject [
    ("name", quote c.name),
    ("state", quote c.state.text),
    ("threshold", quote c.threshold),
    ("observed", quote c.observed),
    ("reason", quote c.reason),
    ("description", quote c.description)]

def CandidateEvidence.marshal (c : CandidateEvidence) : Bytes :=
  encodeObject [
    ("sequence", encodeInt c.sequence),
    ("version_id", quote c.versionID.toText),
    ("folds", encodeArray (c.folds.map FoldEvidence.marshal)),
    ("statistics", encodeArray (c.statistics.map Statistic.marshal)),
    ("gates", encodeArray (c.gates.map Gate.marshal))]

def AssessmentCanonical.marshal (c : AssessmentCanonical) : Bytes :=
  encodeObject [
    ("schema", quote assessmentSchemaV1),
    ("state", quote "completed"),
    ("family_id", quote c.familyID.toText),
    ("family_sha256", quote c.familySHA256),
    ("policy_id", quote c.policyID.toText),
    ("policy_sha256", quote c.policySHA256),
    ("mode", quote c.mode.text),
    ("candidates", encodeArray (c.candidates.map CandidateEvidence.marshal))]

end Augr.Robustness

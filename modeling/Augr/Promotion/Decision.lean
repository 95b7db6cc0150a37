import Augr.Robustness.Gates

/-! Deployment proposals and the decisions on them. -/

set_option autoImplicit false

namespace Augr.Promotion

open Foundation Json
open Experimentrun (ExperimentMode canonicalText)
open Robustness (Assessment CandidateEvidence Gate GateState canonicalToken repeats sortStrings)

def deploymentSchemaV1 : String := "strategy-deployment-v1"

inductive DeploymentState where
  | proposed
  | shadow
  | retired
  deriving DecidableEq

def DeploymentState.text : DeploymentState → String
  | .proposed => "proposed"
  | .shadow => "shadow"
  | .retired => "retired"

structure DeploymentInput where
  (versionID accountID capitalBindingID : Uuid)
  (budget scheduleCron timezone riskPolicyVersion : String)
  mode : ExperimentMode
  deriving DecidableEq

/-- The fields are private to the package: a deployment comes from `newDeployment`. -/
structure Deployment where
  canonical : DeploymentInput
  state : DeploymentState
  bytes : RawMessage
  digest : String
  id : Uuid
  deriving DecidableEq

def DeploymentInput.marshal (c : DeploymentInput) (state : DeploymentState) : Bytes :=
  encodeObject [
    ("schema", quote deploymentSchemaV1),
    ("state", quote state.text),
    ("activation_authority", quote "promotion-evaluator-v1"),
    ("version_id", quote c.versionID.toText),
    ("account_id", quote c.accountID.toText),
    ("capital_binding_id", quote c.capitalBindingID.toText),
    ("budget", quote c.budget),
    ("schedule_cron", quote c.scheduleCron),
    ("timezone", quote c.timezone),
    ("risk_policy_version", quote c.riskPolicyVersion),
    ("mode", quote c.mode.text)]

/-- A positive decimal in its own text, without exponent or plus sign. -/
def canonicalBudget (value : String) : Bool :=
  value != "" && value == Text.trimSpace value &&
    !(Text.characters value).any (fun c => c == 'e' || c == 'E' || c == '+') &&
    match Decimal.newFromString value with
    | .error _ => false
    | .ok parsed => parsed.isPositive && parsed.toText == value

/-- `loadLocation` gives the name under which the time zone database knows a zone, if it does. -/
def newDeployment (loadLocation : String → Option String) (input : DeploymentInput) : Outcome Deployment := do
  failIf (input.versionID == Uuid.nil || input.accountID == Uuid.nil || input.capitalBindingID == Uuid.nil ||
      !canonicalBudget input.budget || !canonicalText input.scheduleCron 256 || !canonicalText input.timezone 128 ||
      !canonicalText input.riskPolicyVersion 256 || (input.mode != .paperScored && input.mode != .paperStress))
    (.errorf "strategy deployment proposal is invalid" [])
  failIf (loadLocation input.timezone != some input.timezone) (.errorf "strategy deployment timezone is invalid" [])
  let encoded := input.marshal .proposed
  let digest := sha256Hex encoded
  pure ⟨input, .proposed, encoded, digest,
    deterministicUUID "strategy-deployment" [deploymentSchemaV1 ++ "@sha256:" ++ digest]⟩

def policySchemaV1 : String := "promotion-policy-v1"

inductive FailureAction where
  | hold
  | retire
  | unrecognized (text : String)
  deriving DecidableEq

def FailureAction.text : FailureAction → String
  | .hold => "hold"
  | .retire => "retire"
  | .unrecognized text => text

structure PolicyInput where
  version : String
  requiredGates : List String
  failureAction : FailureAction
  deriving DecidableEq

structure Policy where
  canonical : PolicyInput
  bytes : RawMessage
  digest : String
  id : Uuid
  deriving DecidableEq

def PolicyInput.marshal (c : PolicyInput) : Bytes :=
  encodeObject [
    ("schema", quote policySchemaV1),
    ("version", quote c.version),
    ("required_gates", encodeArray (c.requiredGates.map quote)),
    ("pass_action", quote "shadow"),
    ("failure_action", quote c.failureAction.text)]

def newPolicy (input : PolicyInput) : Outcome Policy := do
  let gates := sortStrings input.requiredGates
  failIf (!canonicalText input.version 128 || gates.isEmpty || 64 < gates.length ||
      (input.failureAction != .hold && input.failureAction != .retire))
    (.errorf "promotion policy is invalid" [])
  failIf (gates.any (fun gate => !canonicalToken gate) || repeats gates)
    (.errorf "promotion required gates are invalid" [])
  failIf (!gates.contains "overall_robustness") (.errorf "promotion policy must require overall robustness" [])
  let canonical := { input with requiredGates := gates }
  let encoded := canonical.marshal
  let digest := sha256Hex encoded
  pure ⟨canonical, encoded, digest, deterministicUUID "promotion-policy" [policySchemaV1 ++ "@sha256:" ++ digest]⟩

def decisionSchemaV1 : String := "promotion-retirement-decision-v1"

inductive DecisionOutcome where
  | approved
  | held
  | retired
  deriving DecidableEq

def DecisionOutcome.text : DecisionOutcome → String
  | .approved => "approved"
  | .held => "held"
  | .retired => "retired"

structure DecisionCanonical where
  deploymentID : Uuid
  deploymentSHA256 : String
  (versionID assessmentID : Uuid)
  assessmentSHA256 : String
  (familyID robustnessPolicyID : Uuid)
  mode : ExperimentMode
  policyID : Uuid
  (policySHA256 priorDecisionID priorDecisionSHA256 : String)
  (priorState nextState : DeploymentState)
  outcome : DecisionOutcome
  reason : String
  observedGates : List Gate
  deriving DecidableEq

structure Decision where
  canonical : DecisionCanonical
  bytes : RawMessage
  digest : String
  id : Uuid
  deriving DecidableEq

structure DecisionInput where
  deployment : Option Deployment
  assessment : Option Assessment
  policy : Option Policy
  priorDecision : Option Decision

def DecisionCanonical.marshal (c : DecisionCanonical) : Bytes :=
  encodeObject [
    ("schema", quote decisionSchemaV1),
    ("deployment_id", quote c.deploymentID.toText),
    ("deployment_sha256", quote c.deploymentSHA256),
    ("version_id", quote c.versionID.toText),
    ("assessment_id", quote c.assessmentID.toText),
    ("assessment_sha256", quote c.assessmentSHA256),
    ("family_id", quote c.familyID.toText),
    ("robustness_policy_id", quote c.robustnessPolicyID.toText),
    ("mode", quote c.mode.text),
    ("policy_id", quote c.policyID.toText),
    ("policy_sha256", quote c.policySHA256),
    ("prior_decision_id", quote c.priorDecisionID),
    ("prior_decision_sha256", quote c.priorDecisionSHA256),
    ("prior_state", quote c.priorState.text),
    ("next_state", quote c.nextState.text),
    ("outcome", quote c.outcome.text),
    ("reason", quote c.reason),
    ("observed_gates", encodeArray (c.observedGates.map Gate.marshal))]

/-- The candidate of the deployed version, of which there must be one. -/
def findCandidate (candidates : List CandidateEvidence) (version : Uuid) : Outcome CandidateEvidence :=
  match candidates.filter fun candidate => candidate.versionID == version with
  | [] => .error (.errorf "promotion assessment does not contain deployment version" [])
  | [candidate] => .ok candidate
  | _ => .error (.errorf "promotion assessment candidate is duplicated" [])

/-- One iteration of the loop that indexes the gates by name. -/
def indexGate (sofar : List Gate) (gate : Gate) : Outcome (List Gate) := do
  failIf (sofar.any fun other => other.name == gate.name) (.errorf "promotion assessment gate is duplicated" [])
  pure (sofar ++ [gate])

def observeGate (gates : List Gate) (name : String) : Outcome Gate :=
  required (.errorf "promotion required gate %s is missing" [name]) (gates.find? fun gate => gate.name == name)

/-- The state before a decision, with the identity and digest of the decision that led to it. -/
structure Prior where
  state : DeploymentState
  (id digest : String)

def priorOf (deployment : Deployment) (decision : Option Decision) : Outcome Prior :=
  match decision with
  | none => .ok ⟨deployment.state, "", ""⟩
  | some prior => do
      failIf (prior.canonical.deploymentID != deployment.id) (.errorf "promotion prior decision deployment diverges" [])
      pure ⟨prior.canonical.nextState, prior.id.toText, prior.digest⟩

structure Verdict where
  outcome : DecisionOutcome
  nextState : DeploymentState
  reason : String

def verdictOf (prior : DeploymentState) (allPass : Bool) (action : FailureAction) : Verdict :=
  if prior = .proposed && allPass then ⟨.approved, .shadow, "all_required_robustness_gates_passed"⟩
  else if !allPass && action = .retire then ⟨.retired, .retired, "required_robustness_gate_failed"⟩
  else ⟨.held, prior, "required_gate_failed_or_transition_not_available"⟩

def Decision.ofCanonical (canonical : DecisionCanonical) : Decision :=
  let encoded := canonical.marshal
  let digest := sha256Hex encoded
  ⟨canonical, encoded, digest,
    deterministicUUID "promotion-retirement-decision" [decisionSchemaV1 ++ "@sha256:" ++ digest]⟩

def newDecision (input : DecisionInput) : Outcome Decision := do
  let refused := Fault.errorf "promotion decision parents are invalid" []
  let deployment ← required refused input.deployment
  let assessment ← required refused input.assessment
  let policy ← required refused input.policy
  failIf (deployment.state != .proposed || deployment.canonical.mode != assessment.canonical.mode) refused
  let candidate ← findCandidate assessment.canonical.candidates deployment.canonical.versionID
  let gates ← candidate.gates.foldlM indexGate []
  let observed ← policy.canonical.requiredGates.mapM (observeGate gates)
  let allPass := observed.all fun gate => gate.state == .pass
  let prior ← priorOf deployment input.priorDecision
  let verdict := verdictOf prior.state allPass policy.canonical.failureAction
  pure (.ofCanonical
    { deploymentID := deployment.id
      deploymentSHA256 := deployment.digest
      versionID := deployment.canonical.versionID
      assessmentID := assessment.id
      assessmentSHA256 := assessment.digest
      familyID := assessment.canonical.familyID
      robustnessPolicyID := assessment.canonical.policyID
      mode := assessment.canonical.mode
      policyID := policy.id
      policySHA256 := policy.digest
      priorDecisionID := prior.id
      priorDecisionSHA256 := prior.digest
      priorState := prior.state
      nextState := verdict.nextState
      outcome := verdict.outcome
      reason := verdict.reason
      observedGates := observed })

end Augr.Promotion

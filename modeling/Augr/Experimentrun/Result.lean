import Augr.Experimentrun.Plan

/-! The result of a replayed plan: what each step did, and the totals. -/

set_option autoImplicit false

namespace Augr.Experimentrun

open Foundation Json

def resultSchemaV1 : String := "experiment-run-result-v1"

structure StepOutcomeInput where
  action : StepAction
  decisionSHA256 : String
  (intentID orderID : Uuid)
  (transitionIDs fillIDs : List Uuid)
  (filledQuantity feeTotal aggregateSHA256 outcomeSHA256 : String)
  deriving DecidableEq

structure ResultInput where
  plan : Option Plan
  (accountID qualityResultID : Uuid)
  (simulationPolicyVersion capitalPolicyVersion : String)
  outcomes : List StepOutcomeInput

structure Metrics where
  (stepCount noopCount rejectedCount intentCount orderCount transitionCount fillCount : Nat)
  (filledQuantity feeTotal : Decimal)
  deriving DecidableEq

/-- The canonical record keeps identities as they are; an outcome is written with its position. -/
structure ResultCanonical where
  (experimentID programID planID accountID manifestID qualityResultID : Uuid)
  (simulationPolicyVersion capitalPolicyVersion : String)
  mode : ExperimentMode
  metrics : Metrics
  outcomes : List StepOutcomeInput
  deriving DecidableEq

/-- The fields are private to the package: a result comes from `newResult`. -/
structure Result where
  canonical : ResultCanonical
  bytes : RawMessage
  digest : String
  id : Uuid
  deriving DecidableEq

def uuidText (value : Uuid) : String := if value = Uuid.nil then "" else value.toText

def marshalUuids (values : List Uuid) : Bytes := encodeArray (values.map fun value => quote value.toText)

def StepOutcomeInput.marshal (outcome : StepOutcomeInput) (sequence : Nat) : Bytes :=
  encodeObject [
    ("sequence", encodeInt sequence),
    ("action", quote outcome.action.text),
    ("decision_sha256", quote outcome.decisionSHA256),
    ("intent_id", quote (uuidText outcome.intentID)),
    ("order_id", quote (uuidText outcome.orderID)),
    ("transition_ids", marshalUuids outcome.transitionIDs),
    ("fill_ids", marshalUuids outcome.fillIDs),
    ("filled_quantity", quote outcome.filledQuantity),
    ("fee_total", quote outcome.feeTotal),
    ("aggregate_sha256", quote outcome.aggregateSHA256),
    ("outcome_sha256", quote outcome.outcomeSHA256)]

def Metrics.marshal (metrics : Metrics) : Bytes :=
  encodeObject [
    ("step_count", encodeInt metrics.stepCount),
    ("noop_count", encodeInt metrics.noopCount),
    ("rejected_count", encodeInt metrics.rejectedCount),
    ("intent_count", encodeInt metrics.intentCount),
    ("order_count", encodeInt metrics.orderCount),
    ("transition_count", encodeInt metrics.transitionCount),
    ("fill_count", encodeInt metrics.fillCount),
    ("filled_quantity", quote metrics.filledQuantity.toText),
    ("fee_total", quote metrics.feeTotal.toText)]

def ResultCanonical.marshal (c : ResultCanonical) : Bytes :=
  encodeObject [
    ("schema", quote resultSchemaV1),
    ("state", quote "completed"),
    ("experiment_id", quote c.experimentID.toText),
    ("program_id", quote c.programID.toText),
    ("plan_id", quote c.planID.toText),
    ("account_id", quote c.accountID.toText),
    ("manifest_id", quote c.manifestID.toText),
    ("quality_result_id", quote c.qualityResultID.toText),
    ("simulation_policy_version", quote c.simulationPolicyVersion),
    ("capital_policy_version", quote c.capitalPolicyVersion),
    ("mode", quote c.mode.text),
    ("metrics", c.metrics.marshal),
    ("outcomes", encodeArray (c.outcomes.zipIdx.map fun entry => entry.1.marshal entry.2))]

def canonicalNonnegativeDecimal (value : String) : Bool := value == "0" || canonicalPositiveDecimal value

def policyVersion (value schema : String) : Bool :=
  Text.hasPrefix value (schema ++ "@sha256:") && digestPattern (Text.trimPrefix value (schema ++ "@sha256:"))

def validUUIDs (values : List Uuid) : Bool := values.all (· != Uuid.nil)

def outcomeInvalid (plan : Plan) (sequence : Nat) (value : StepOutcomeInput) : Bool :=
  value.action != plan.stepAction sequence || value.decisionSHA256 != plan.decisionSHA256 sequence ||
    !canonicalNonnegativeDecimal value.filledQuantity || !canonicalNonnegativeDecimal value.feeTotal ||
    !validUUIDs value.transitionIDs || !validUUIDs value.fillIDs

/-- A step that executed nothing shows nothing. -/
def StepOutcomeInput.carriesEvidence (value : StepOutcomeInput) : Bool :=
  value.intentID != Uuid.nil || value.orderID != Uuid.nil || !value.transitionIDs.isEmpty || !value.fillIDs.isEmpty ||
    value.aggregateSHA256 != "" || value.outcomeSHA256 != "" || value.filledQuantity != "0" || value.feeTotal != "0"

def Metrics.countAction (metrics : Metrics) (plan : Plan) (sequence : Nat) (value : StepOutcomeInput) :
    Outcome Metrics :=
  match value.action with
  | .noop => do
      failIf value.carriesEvidence (.errorf "noop outcome carries execution evidence" [])
      pure { metrics with noopCount := metrics.noopCount + 1 }
  | .rejected => do
      failIf value.carriesEvidence (.errorf "rejected outcome carries economic evidence" [])
      pure { metrics with rejectedCount := metrics.rejectedCount + 1 }
  | .execute => do
      failIf (value.intentID != plan.intentID sequence || value.orderID != plan.orderID sequence ||
          !digestPattern value.aggregateSHA256 || !digestPattern value.outcomeSHA256)
        (.errorf "executed outcome lacks exact identity" [])
      pure { metrics with intentCount := metrics.intentCount + 1, orderCount := metrics.orderCount + 1 }
  | .unrecognized _ => .error (.errorf "outcome action is invalid" [])

def Metrics.addOutcome (plan : Plan) (metrics : Metrics) (entry : StepOutcomeInput × Nat) : Outcome Metrics := do
  let (value, sequence) := entry
  failIf (outcomeInvalid plan sequence value) (.errorf "experiment run outcome %d is invalid" [Text.itoa sequence])
  let counted ← metrics.countAction plan sequence value
  let quantity ← requireFromString value.filledQuantity
  let fees ← requireFromString value.feeTotal
  pure { counted with
    transitionCount := counted.transitionCount + value.transitionIDs.length
    fillCount := counted.fillCount + value.fillIDs.length
    filledQuantity := counted.filledQuantity.add quantity
    feeTotal := counted.feeTotal.add fees }

def Metrics.start (steps : Nat) : Metrics :=
  { stepCount := steps
    noopCount := 0
    rejectedCount := 0
    intentCount := 0
    orderCount := 0
    transitionCount := 0
    fillCount := 0
    filledQuantity := .zero
    feeTotal := .zero }

def newResult (input : ResultInput) : Outcome Result := do
  let refused := Fault.errorf "experiment run result identity is invalid" []
  let plan ← required refused input.plan
  failIf (input.accountID == Uuid.nil || input.qualityResultID == Uuid.nil ||
      !policyVersion input.simulationPolicyVersion "simulation-policy-v1" ||
      !policyVersion input.capitalPolicyVersion "capital-margin-policy-v1" || input.outcomes.length != plan.stepCount)
    refused
  let metrics ← input.outcomes.zipIdx.foldlM (Metrics.addOutcome plan) (.start input.outcomes.length)
  let canonical : ResultCanonical :=
    { experimentID := plan.canonical.experimentID
      programID := plan.canonical.programID
      planID := plan.id
      accountID := input.accountID
      manifestID := plan.canonical.manifestID
      qualityResultID := input.qualityResultID
      simulationPolicyVersion := input.simulationPolicyVersion
      capitalPolicyVersion := input.capitalPolicyVersion
      mode := plan.canonical.mode
      metrics := metrics
      outcomes := input.outcomes }
  let encoded := canonical.marshal
  let digest := sha256Hex encoded
  pure ⟨canonical, encoded, digest, deterministicUUID "experiment-run-result" [resultSchemaV1 ++ "@sha256:" ++ digest]⟩

theorem newResult_mode {input : ResultInput} {result : Result} (ok : newResult input = .ok result) :
    ∃ plan, input.plan = some plan ∧ result.canonical.mode = plan.canonical.mode ∧ result.canonical.planID = plan.id := by
  simp only [newResult, returns_iff] at ok
  obtain ⟨plan, given, _, metrics, _, built⟩ := ok
  cases built
  exact ⟨plan, given, rfl, rfl⟩

end Augr.Experimentrun

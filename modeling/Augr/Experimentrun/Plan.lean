import Augr.Capital.State
import Augr.Foundation.Records

/-! The replay plan of an experiment: which observation each step reads and what it decides there. -/

set_option autoImplicit false

namespace Augr.Experimentrun

open Foundation Json Text

def planSchemaV1 : String := "experiment-replay-plan-v1"

def planDomain : String := "experiment-replay-plan"

inductive ExperimentMode where
  | paperScored
  | paperStress
  | unrecognized (text : String)
  deriving DecidableEq

def ExperimentMode.text : ExperimentMode → String
  | .paperScored => "paper_scored"
  | .paperStress => "paper_stress"
  | .unrecognized text => text

inductive StepAction where
  | noop
  | rejected
  | execute
  | unrecognized (text : String)
  deriving DecidableEq

def StepAction.text : StepAction → String
  | .noop => "noop"
  | .rejected => "rejected"
  | .execute => "execute"
  | .unrecognized text => text

structure IntentSpecInput where
  (instrumentID venueContractID : Uuid)
  (side orderType timeInForce quantity : String)
  (limitPrice stopPrice : Option String)
  (decisionAt routeAt : Instant)
  deriving DecidableEq

structure StepInput where
  (partitionContentSHA256 observationSourceKey observationContentSHA256 : String)
  availableAt : Instant
  decision : RawMessage
  action : StepAction
  rejectionCode : String
  intent : Option IntentSpecInput
  deriving DecidableEq

structure PlanInput where
  (experimentID programID accountID capitalStateID : Uuid)
  capitalStateSHA256 : String
  capitalProjectionCheckpointID : Uuid
  capitalStateBytes : RawMessage
  manifestID : Uuid
  manifestSHA256 : String
  (evaluationStart evaluationEnd : Instant)
  seed : Int
  mode : ExperimentMode
  steps : List StepInput

/-- The canonical records keep identities as they are and times as their text. -/
structure IntentCanonical where
  (instrumentID venueContractID : Uuid)
  (side orderType timeInForce quantity : String)
  (limitPrice stopPrice : Option String)
  (decisionAt routeAt : String)
  deriving DecidableEq

structure StepCanonical where
  sequence : Nat
  (partitionContentSHA256 observationSourceKey observationContentSHA256 availableAt : String)
  decision : RawMessage
  action : StepAction
  rejectionCode : String
  intent : Option IntentCanonical
  deriving DecidableEq

structure PlanCanonical where
  (experimentID programID accountID capitalStateID : Uuid)
  capitalStateSHA256 : String
  capitalProjectionCheckpointID : Uuid
  capitalState : RawMessage
  manifestID : Uuid
  (manifestSHA256 evaluationStart evaluationEnd : String)
  seed : Int
  mode : ExperimentMode
  steps : List StepCanonical
  deriving DecidableEq

/-- The fields are private to the package: a plan comes from `newPlan`. -/
structure Plan where
  canonical : PlanCanonical
  bytes : RawMessage
  digest : String
  id : Uuid
  deriving DecidableEq

def isLowerHex (c : Char) : Bool := '0' ≤ c && c ≤ '9' || 'a' ≤ c && c ≤ 'f'

/-- The pattern `^[0-9a-f]{64}$`. -/
def digestPattern (value : String) : Bool :=
  (characters value).length == 64 && (characters value).all isLowerHex

def canonicalText (value : String) (maximum : Nat) : Bool :=
  value != "" && value == trimSpace value && byteLength value ≤ maximum

def formatTime (value : Instant) : String := value.format

def parseTime (value : String) : Instant := (Instant.parse value).getD .zero

/-- Digits without a leading zero. -/
def wholeNumber : List Char → Bool
  | [] => false
  | ['0'] => true
  | first :: rest => first != '0' && first.isDigit && rest.all Char.isDigit

/-- The pattern `^(?:0|[1-9][0-9]*)(?:\.[0-9]+)?$`. -/
def decimalPattern (value : String) : Bool :=
  let characters := characters value
  let whole := characters.takeWhile (· != '.')
  wholeNumber whole && match characters.drop whole.length with
    | [] => true
    | _ :: fraction => !fraction.isEmpty && fraction.all Char.isDigit

def canonicalPositiveDecimal (value : String) : Bool :=
  decimalPattern value && match Decimal.newFromString value with
    | .error _ => false
    | .ok parsed => parsed.isPositive && parsed.toText == value

/-- Panics with the error of the conversion where the text is not a number. -/
def requireFromString (value : String) : Outcome Decimal := Decimal.newFromString value

def onlyObject (raw : RawMessage) : Option Json := do
  let (value, rest) ← decodeFirst anyNumber raw
  if value.isObject && (skipSpace rest).isEmpty then pure value else none

def withinLimit (raw : RawMessage) : Bool := !raw.isEmpty && raw.length ≤ 2 ^ 20

def exactJSONObject (raw : RawMessage) : Bool := withinLimit raw && (onlyObject raw).isSome

def canonicalJSONObject (raw : RawMessage) : Bool :=
  withinLimit raw && match onlyObject raw with
    | none => false
    | some value => value.encode == raw

def marshalOptional (value : Option String) : Bytes :=
  match value with
  | none => utf8 "null"
  | some text => quote text

def IntentCanonical.marshal (c : IntentCanonical) : Bytes :=
  encodeObject [
    ("instrument_id", quote c.instrumentID.toText),
    ("venue_contract_id", quote c.venueContractID.toText),
    ("side", quote c.side),
    ("order_type", quote c.orderType),
    ("time_in_force", quote c.timeInForce),
    ("quantity", quote c.quantity),
    ("limit_price", marshalOptional c.limitPrice),
    ("stop_price", marshalOptional c.stopPrice),
    ("decision_at", quote c.decisionAt),
    ("route_at", quote c.routeAt)]

/-- Embedded JSON is written compactly. -/
def StepCanonical.marshal (c : StepCanonical) : Bytes :=
  encodeObject [
    ("sequence", encodeInt c.sequence),
    ("partition_content_sha256", quote c.partitionContentSHA256),
    ("observation_source_key", quote c.observationSourceKey),
    ("observation_content_sha256", quote c.observationContentSHA256),
    ("available_at", quote c.availableAt),
    ("decision", Json.compact c.decision),
    ("action", quote c.action.text),
    ("rejection_code", quote c.rejectionCode),
    ("intent", (c.intent.map IntentCanonical.marshal).getD (utf8 "null"))]

def PlanCanonical.marshal (c : PlanCanonical) : Bytes :=
  encodeObject [
    ("schema", quote planSchemaV1),
    ("experiment_id", quote c.experimentID.toText),
    ("program_id", quote c.programID.toText),
    ("account_id", quote c.accountID.toText),
    ("capital_state_id", quote c.capitalStateID.toText),
    ("capital_state_sha256", quote c.capitalStateSHA256),
    ("capital_projection_checkpoint_id", quote c.capitalProjectionCheckpointID.toText),
    ("capital_state", Json.compact c.capitalState),
    ("manifest_id", quote c.manifestID.toText),
    ("manifest_sha256", quote c.manifestSHA256),
    ("evaluation_start", quote c.evaluationStart),
    ("evaluation_end", quote c.evaluationEnd),
    ("seed", encodeInt c.seed),
    ("mode", quote c.mode.text),
    ("steps", encodeArray (c.steps.map StepCanonical.marshal))]

def intentInvalid (input : IntentSpecInput) (start finish : Instant) : Bool :=
  input.instrumentID == Uuid.nil || input.venueContractID == Uuid.nil ||
    (input.side != "buy" && input.side != "sell") || (input.orderType != "market" && input.orderType != "limit") ||
    !(["day", "gtc", "ioc", "fok"].contains input.timeInForce) || !canonicalPositiveDecimal input.quantity ||
    !input.decisionAt.isCanonical || !input.routeAt.isCanonical || input.decisionAt.before start ||
    input.routeAt.before input.decisionAt || input.routeAt.after finish

def intentPriceInvalid (input : IntentSpecInput) : Bool :=
  input.orderType == "market" && input.limitPrice.isSome ||
    input.orderType == "limit" && !(input.limitPrice.map canonicalPositiveDecimal).getD false || input.stopPrice.isSome

def canonicalIntent (intent : Option IntentSpecInput) (start finish : Instant) : Outcome IntentCanonical := do
  let refused := Fault.errorf "intent specification is invalid" []
  let input ← required refused intent
  failIf (intentInvalid input start finish) refused
  failIf (intentPriceInvalid input) (.errorf "intent price specification is invalid" [])
  pure
    { instrumentID := input.instrumentID
      venueContractID := input.venueContractID
      side := input.side
      orderType := input.orderType
      timeInForce := input.timeInForce
      quantity := input.quantity
      limitPrice := input.limitPrice
      stopPrice := input.stopPrice
      decisionAt := formatTime input.decisionAt
      routeAt := formatTime input.routeAt }

/-- Partition, source key and content, with a zero byte between them. -/
def evidenceKey (partition source content : String) : String := partition ++ "\x00" ++ source ++ "\x00" ++ content

def StepInput.key (s : StepInput) : String :=
  evidenceKey s.partitionContentSHA256 s.observationSourceKey s.observationContentSHA256

def StepCanonical.key (s : StepCanonical) : String :=
  evidenceKey s.partitionContentSHA256 s.observationSourceKey s.observationContentSHA256

def stepEvidenceInvalid (input : PlanInput) (source : StepInput) : Bool :=
  !canonicalJSONObject source.decision || !digestPattern source.partitionContentSHA256 ||
    !canonicalText source.observationSourceKey 512 || !digestPattern source.observationContentSHA256 ||
    !source.availableAt.isCanonical || source.availableAt.before input.evaluationStart ||
    source.availableAt.after input.evaluationEnd

def stepIntent (input : PlanInput) (index : Nat) (source : StepInput) : Outcome (Option IntentCanonical) :=
  match source.action with
  | .noop => do
      failIf (source.intent.isSome || source.rejectionCode != "") (.errorf "noop step carries execution evidence" [])
      pure none
  | .rejected => do
      failIf (source.intent.isSome || !canonicalText source.rejectionCode 128) (.errorf "rejected step is invalid" [])
      pure none
  | .execute => do
      failIf (source.rejectionCode != "") (.errorf "executable step carries rejection" [])
      let intent ← wrapping "experiment replay step %d: %w" [itoa index]
        (canonicalIntent source.intent input.evaluationStart input.evaluationEnd)
      pure (some intent)
  | .unrecognized _ => .error (.errorf "experiment replay step action is invalid" [])

/-- One iteration of the loop over the steps; what is seen are the steps so far. -/
def addStep (input : PlanInput) (sofar : List StepCanonical) (source : StepInput) : Outcome (List StepCanonical) := do
  let index := sofar.length
  failIf (stepEvidenceInvalid input source) (.errorf "experiment replay step %d evidence is invalid" [itoa index])
  failIf (sofar.any fun step => step.key == source.key) (.errorf "experiment replay step evidence is duplicated" [])
  let intent ← stepIntent input index source
  pure (sofar ++ [{
    sequence := index
    partitionContentSHA256 := source.partitionContentSHA256
    observationSourceKey := source.observationSourceKey
    observationContentSHA256 := source.observationContentSHA256
    availableAt := formatTime source.availableAt
    decision := source.decision
    action := source.action
    rejectionCode := source.rejectionCode
    intent := intent }])

def planIdentityInvalid (input : PlanInput) : Bool :=
  input.experimentID == Uuid.nil || input.programID == Uuid.nil || input.accountID == Uuid.nil ||
    input.capitalStateID == Uuid.nil || !digestPattern input.capitalStateSHA256 ||
    input.capitalProjectionCheckpointID == Uuid.nil || input.manifestID == Uuid.nil ||
    !exactJSONObject input.capitalStateBytes || sha256Hex input.capitalStateBytes != input.capitalStateSHA256 ||
    input.capitalStateID != deterministicUUID "capital-state" [input.capitalStateSHA256] ||
    !digestPattern input.manifestSHA256 || !input.evaluationStart.isCanonical || !input.evaluationEnd.isCanonical ||
    !input.evaluationStart.before input.evaluationEnd ||
    (input.mode != .paperScored && input.mode != .paperStress) || input.steps.isEmpty || 100000 < input.steps.length

def PlanInput.canonical (input : PlanInput) (steps : List StepCanonical) : PlanCanonical where
  experimentID := input.experimentID
  programID := input.programID
  accountID := input.accountID
  capitalStateID := input.capitalStateID
  capitalStateSHA256 := input.capitalStateSHA256
  capitalProjectionCheckpointID := input.capitalProjectionCheckpointID
  capitalState := input.capitalStateBytes
  manifestID := input.manifestID
  manifestSHA256 := input.manifestSHA256
  evaluationStart := formatTime input.evaluationStart
  evaluationEnd := formatTime input.evaluationEnd
  seed := input.seed
  mode := input.mode
  steps := steps

def newPlan (input : PlanInput) : Outcome Plan := do
  failIf (planIdentityInvalid input) (.errorf "experiment replay plan identity is invalid" [])
  let steps ← input.steps.foldlM (addStep input) []
  let canonical := input.canonical steps
  let encoded := canonical.marshal
  let digest := sha256Hex encoded
  pure ⟨canonical, encoded, digest, deterministicUUID planDomain [planSchemaV1 ++ "@sha256:" ++ digest]⟩

namespace Plan

def intentInput (c : IntentCanonical) : IntentSpecInput where
  instrumentID := c.instrumentID
  venueContractID := c.venueContractID
  side := c.side
  orderType := c.orderType
  timeInForce := c.timeInForce
  quantity := c.quantity
  limitPrice := c.limitPrice
  stopPrice := c.stopPrice
  decisionAt := parseTime c.decisionAt
  routeAt := parseTime c.routeAt

def stepInput (c : StepCanonical) : StepInput where
  partitionContentSHA256 := c.partitionContentSHA256
  observationSourceKey := c.observationSourceKey
  observationContentSHA256 := c.observationContentSHA256
  availableAt := parseTime c.availableAt
  decision := c.decision
  action := c.action
  rejectionCode := c.rejectionCode
  intent := c.intent.map intentInput

def steps (p : Plan) : List StepInput := p.canonical.steps.map stepInput

def stepCount (p : Plan) : Nat := p.canonical.steps.length

def stepAction (p : Plan) (sequence : Nat) : StepAction :=
  (p.canonical.steps[sequence]?.map (·.action)).getD (.unrecognized "")

def decisionSHA256 (p : Plan) (sequence : Nat) : String :=
  (p.canonical.steps[sequence]?.map fun step => sha256Hex step.decision).getD ""

def intentIdempotencyKey (p : Plan) (sequence : Nat) : String :=
  match p.canonical.steps[sequence]? with
  | none => ""
  | some step =>
      if step.intent.isNone then ""
      else "experiment/" ++ p.id.toText ++ "/step/" ++ itoa sequence ++ "/decision/" ++ sha256Hex step.decision

def intentID (p : Plan) (sequence : Nat) : Uuid :=
  match p.canonical.steps[sequence]? with
  | none => Uuid.nil
  | some step =>
      if step.intent.isNone then Uuid.nil
      else deterministicUUID "execution-intent" [p.canonical.accountID.toText, p.intentIdempotencyKey sequence]

def orderIdempotencyKey (p : Plan) (sequence : Nat) : String :=
  if p.intentID sequence = Uuid.nil then ""
  else "experiment/" ++ p.id.toText ++ "/step/" ++ itoa sequence ++ "/order"

def orderID (p : Plan) (sequence : Nat) : Uuid :=
  let intent := p.intentID sequence
  if intent = Uuid.nil then Uuid.nil
  else deterministicUUID "execution-order" [intent.toText, p.orderIdempotencyKey sequence]

end Plan

end Augr.Experimentrun

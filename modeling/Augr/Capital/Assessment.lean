import Augr.Capital.State

/-! The assessment of one proposed exposure against the capital of an account. -/

set_option autoImplicit false

namespace Augr.Capital

open Foundation Json

def assessmentSchema : String := "capital-assessment-v1"

def assessmentDomain : String := "capital-assessment"

inductive ExposureDirection where
  | increaseLong
  | increaseShort
  | reduceLong
  | reduceShort
  | unrecognized (text : String)
  deriving DecidableEq, Repr

namespace ExposureDirection

def text : ExposureDirection → String
  | .increaseLong => "increase_long"
  | .increaseShort => "increase_short"
  | .reduceLong => "reduce_long"
  | .reduceShort => "reduce_short"
  | .unrecognized text => text

def isValid : ExposureDirection → Bool
  | .unrecognized _ => false
  | _ => true

end ExposureDirection

def isExposureReduction (direction : ExposureDirection) : Bool :=
  direction == .reduceLong || direction == .reduceShort

inductive Decision where
  | admitted
  | rejected
  | unrecognized (text : String)
  deriving DecidableEq, Repr

namespace Decision

def text : Decision → String
  | .admitted => "admitted"
  | .rejected => "rejected"
  | .unrecognized text => text

def isValid : Decision → Bool
  | .unrecognized _ => false
  | _ => true

end Decision

inductive ReasonCode where
  | admitted
  | stressUnbounded
  | shortNotSupported
  | maintenanceBreach
  | insufficientSettledCash
  | reserveBreach
  | insufficientBuyingPower
  | grossExposureBreach
  | unrecognized (text : String)
  deriving DecidableEq, Repr

namespace ReasonCode

def text : ReasonCode → String
  | .admitted => "admitted"
  | .stressUnbounded => "stress_unbounded"
  | .shortNotSupported => "short_not_supported"
  | .maintenanceBreach => "maintenance_breach"
  | .insufficientSettledCash => "insufficient_settled_cash"
  | .reserveBreach => "reserve_breach"
  | .insufficientBuyingPower => "insufficient_buying_power"
  | .grossExposureBreach => "gross_exposure_breach"
  | .unrecognized text => text

def isValid : ReasonCode → Bool
  | .unrecognized _ => false
  | _ => true

end ReasonCode

structure AssessmentInput where
  account : Account
  binding : Binding
  policy : Option Policy
  state : Option State
  instrument : Instrument
  (currency scenarioID : String)
  direction : ExposureDirection
  proposedNotional : Decimal

structure Assessment where
  (id stateID accountID bindingID : Uuid)
  policyVersion : String
  instrumentID : Uuid
  scenarioID : String
  direction : ExposureDirection
  currency : String
  (proposedNotional currentInitialRequirement requestedInitialMargin initialMarginHeadroom : Decimal)
  (grossHeadroom availableBuyingPower postGrossExposure postMaintenanceRequirement : Decimal)
  decision : Decision
  reason : ReasonCode
  unbounded : Bool
  environment : AccountEnvironment
  (evidenceClass storageNamespace : String)
  canonicalBytes : RawMessage
  hash : String
  deriving DecidableEq

def nonnegative (value : Decimal) : Decimal := if value.isNegative then .zero else value

def postDirectionalExposure (state : State) (direction : ExposureDirection) (notional : Decimal) : Decimal × Decimal :=
  match direction with
  | .increaseLong => (state.longExposure.add notional, state.shortExposure)
  | .increaseShort => (state.longExposure, state.shortExposure.add notional)
  | .reduceLong => (state.longExposure.sub notional, state.shortExposure)
  | .reduceShort => (state.longExposure, state.shortExposure.sub notional)
  | .unrecognized _ => (state.longExposure, state.shortExposure)

def postGrossExposure (state : State) (direction : ExposureDirection) (notional : Decimal) : Decimal :=
  let (long, short) := postDirectionalExposure state direction notional
  long.add short

def initialRequirement (profile : Profile) (scale : Nat) (state : State) : Decimal :=
  roundCapitalUp ((state.longExposure.mul profile.initialLong).add (state.shortExposure.mul profile.initialShort)) scale

def marginHeadroom (profile : Profile) (scale : Nat) (state : State) : Decimal :=
  nonnegative (state.equity.sub (initialRequirement profile scale state))

def exposureHeadroom (profile : Profile) (state : State) : Decimal :=
  nonnegative ((state.equity.mul profile.maximumGross).sub state.grossExposure)

/-- Reductions require no new initial margin. -/
def initialRatio (profile : Profile) : ExposureDirection → Decimal
  | .increaseLong => profile.initialLong
  | .increaseShort => profile.initialShort
  | _ => .zero

def supportedAssetClass (assetClass : AssetClass) : Bool :=
  assetClass == .equity || assetClass == .etf || assetClass == .option

def validateAssessmentInput (input : AssessmentInput) : Outcome (Policy × State) := do
  let missing := Fault.errorf "policy and builder-produced state are required" []
  let policy ← required missing input.policy
  let state ← required missing input.state
  input.binding.validate input.account input.policy
  state.validate input.account input.binding input.policy
  wrapping "proposed instrument: %w" [] input.instrument.validate
  failIf (!supportedAssetClass input.instrument.assetClass)
    (.errorf "proposed instrument asset class %q is unsupported" [input.instrument.assetClass.text])
  failIf (input.currency != "USD" || input.currency != input.account.baseCurrency ||
      input.instrument.currency != input.currency)
    (.errorf "assessment currency context does not match" [])
  failIf (input.scenarioID == "" || input.scenarioID != Text.trimSpace input.scenarioID ||
      256 < Text.byteLength input.scenarioID)
    (.errorf "canonical scenario ID is required" [])
  failIf (!input.direction.isValid || !input.proposedNotional.isPositive || !validCapitalAmount input.proposedNotional)
    (.errorf "direction and positive exact proposed notional are required" [])
  failIf (input.direction == .reduceLong && input.proposedNotional.greaterThan state.longExposure)
    (.errorf "long reduction exceeds current long exposure" [])
  failIf (input.direction == .reduceShort && input.proposedNotional.greaterThan state.shortExposure)
    (.errorf "short reduction exceeds current short exposure" [])
  pure (policy, state)

def openAssessment (input : AssessmentInput) (policy : Policy) (state : State) : Assessment where
  id := Uuid.nil
  stateID := state.id
  accountID := input.account.id
  bindingID := input.binding.id
  policyVersion := policy.version
  instrumentID := input.instrument.id
  scenarioID := input.scenarioID
  direction := input.direction
  currency := input.currency
  proposedNotional := input.proposedNotional
  currentInitialRequirement := .unset
  requestedInitialMargin := .unset
  initialMarginHeadroom := .unset
  grossHeadroom := .unset
  availableBuyingPower := .unset
  postGrossExposure := .unset
  postMaintenanceRequirement := .unset
  decision := .unrecognized ""
  reason := .unrecognized ""
  unbounded := false
  environment := input.account.environment
  evidenceClass := input.account.evidenceClass
  storageNamespace := input.account.storageNamespace
  canonicalBytes := []
  hash := ""

def Assessment.admitted (a : Assessment) : Assessment := { a with decision := .admitted, reason := .admitted }

def Assessment.rejected (a : Assessment) (reason : ReasonCode) : Assessment :=
  { a with decision := .rejected, reason := reason }

/-- A cash account also needs the settled cash and its reserve. -/
def settledCashBreach (input : AssessmentInput) (profile : Profile) (state : State) : Option ReasonCode :=
  if input.binding.profile == .cash && input.direction == .increaseLong then
    if input.proposedNotional.greaterThan state.cash then some .insufficientSettledCash
    else if (state.cash.sub input.proposedNotional).lessThan (input.binding.tier.mul profile.cashReserve) then
      some .reserveBreach
    else none
  else none

/-- An exposure increase is weighed against the state as it stands. -/
def increaseBreach (input : AssessmentInput) (profile : Profile) (state : State) (a : Assessment) : Option ReasonCode :=
  if state.maintenanceRequirement.greaterThan state.equity then some .maintenanceBreach
  else match settledCashBreach input profile state with
    | some reason => some reason
    | none =>
        if a.requestedInitialMargin.greaterThan a.initialMarginHeadroom then some .insufficientBuyingPower
        else if input.proposedNotional.greaterThan a.grossHeadroom then some .grossExposureBreach
        else if a.postMaintenanceRequirement.greaterThan state.equity then some .maintenanceBreach
        else none

def unlimitedAssessment (input : AssessmentInput) (policy : Policy) (state : State) : Assessment :=
  { openAssessment input policy state with
    unbounded := true
    decision := .admitted
    reason := .stressUnbounded
    postGrossExposure := postGrossExposure state input.direction input.proposedNotional }

def finiteAssessment (input : AssessmentInput) (policy : Policy) (state : State) (profile : Profile) : Assessment :=
  let opened :=
    { openAssessment input policy state with
      currentInitialRequirement := initialRequirement profile policy.scale state
      initialMarginHeadroom := marginHeadroom profile policy.scale state
      grossHeadroom := exposureHeadroom profile state }
  if input.direction == .increaseShort && !profile.allowShort then opened.rejected .shortNotSupported
  else
    let ratio := initialRatio profile input.direction
    let (postLong, postShort) := postDirectionalExposure state input.direction input.proposedNotional
    let weighed :=
      { opened with
        requestedInitialMargin := roundCapitalUp (input.proposedNotional.mul ratio) policy.scale
        availableBuyingPower :=
          if ratio.isPositive then
            opened.grossHeadroom.min ((opened.initialMarginHeadroom.div ratio).roundFloor policy.scale)
          else opened.grossHeadroom
        postGrossExposure := postGrossExposure state input.direction input.proposedNotional
        postMaintenanceRequirement :=
          roundCapitalUp ((postLong.mul profile.maintenanceLong).add (postShort.mul profile.maintenanceShort)) policy.scale }
    if isExposureReduction input.direction then weighed.admitted
    else match increaseBreach input profile state weighed with
      | some reason => weighed.rejected reason
      | none => weighed.admitted

namespace Assessment

def canonical (a : Assessment) : Bytes :=
  encodeObject [
    ("schema", quote assessmentSchema),
    ("state_id", quote a.stateID.toText),
    ("account_id", quote a.accountID.toText),
    ("binding_id", quote a.bindingID.toText),
    ("policy_version", quote a.policyVersion),
    ("instrument_id", quote a.instrumentID.toText),
    ("scenario_id", quote a.scenarioID),
    ("direction", quote a.direction.text),
    ("currency", quote a.currency),
    ("proposed_notional", quote a.proposedNotional.toText),
    ("current_initial_requirement", quote a.currentInitialRequirement.toText),
    ("requested_initial_margin", quote a.requestedInitialMargin.toText),
    ("initial_margin_headroom", quote a.initialMarginHeadroom.toText),
    ("gross_headroom", quote a.grossHeadroom.toText),
    ("available_buying_power", quote a.availableBuyingPower.toText),
    ("post_gross_exposure", quote a.postGrossExposure.toText),
    ("post_maintenance_requirement", quote a.postMaintenanceRequirement.toText),
    ("decision", quote a.decision.text),
    ("reason", quote a.reason.text),
    ("unbounded", encodeBool a.unbounded),
    ("environment", quote a.environment.text),
    ("evidence_class", quote a.evidenceClass),
    ("storage_namespace", quote a.storageNamespace)]

def sealed (a : Assessment) : Assessment :=
  let encoded := a.canonical
  let hash := sha256Hex encoded
  { a with canonicalBytes := encoded, hash := hash, id := deterministicUUID assessmentDomain [hash] }

def amounts (a : Assessment) : List Decimal :=
  [a.proposedNotional, a.currentInitialRequirement, a.requestedInitialMargin, a.initialMarginHeadroom, a.grossHeadroom,
    a.availableBuyingPower, a.postGrossExposure, a.postMaintenanceRequirement]

def contextInvalid (a : Assessment) (account : Account) (binding : Binding) (policy : Policy) (state : State) : Bool :=
  a.stateID != state.id || a.accountID != account.id || a.bindingID != binding.id || a.policyVersion != policy.version ||
    a.environment != account.environment || a.evidenceClass != account.evidenceClass ||
    a.storageNamespace != account.storageNamespace || a.instrumentID == Uuid.nil || a.scenarioID == "" ||
    !a.direction.isValid || a.currency != account.baseCurrency || !a.proposedNotional.isPositive

def decisionInvalid (a : Assessment) : Bool :=
  !a.decision.isValid || !a.reason.isValid || a.unbounded != (a.reason == .stressUnbounded) ||
    (a.decision == .admitted) != (a.reason == .admitted || a.reason == .stressUnbounded)

def validate (a : Assessment) (account : Account) (binding : Binding) (policy : Policy) (state : State) :
    Outcome Unit := do
  failIf (a.id == Uuid.nil || Text.byteLength a.hash != 64) (.errorf "capital assessment identity is invalid" [])
  binding.validate account (some policy)
  state.validate account binding (some policy)
  failIf (a.contextInvalid account binding policy state) (.errorf "capital assessment context is invalid" [])
  forEach (fun value => failIf (!validCapitalAmount value || value.isNegative)
    (.errorf "capital assessment amount is invalid" [])) a.amounts
  failIf a.decisionInvalid (.errorf "capital assessment decision or reason is inconsistent" [])
  let encoded := a.canonical
  let digest := sha256Hex encoded
  failIf (encoded != a.canonicalBytes || digest != a.hash || a.id != deterministicUUID assessmentDomain [digest])
    (.errorf "capital assessment canonical evidence does not match fields" [])

end Assessment

def sealAssessment (a : Assessment) (input : AssessmentInput) (policy : Policy) (state : State) : Outcome Assessment := do
  wrapping "seal capital assessment: %w" [] (a.sealed.validate input.account input.binding policy state)
  pure a.sealed

/-- A policy lookup that finds nothing yields the zero profile. -/
def zeroProfile : Profile where
  name := .unrecognized ""
  initialLong := .unset
  initialShort := .unset
  maintenanceLong := .unset
  maintenanceShort := .unset
  maximumGross := .unset
  cashReserve := .unset
  allowShort := false
  unlimited := false

def assess (input : AssessmentInput) : Outcome Assessment := do
  let (policy, state) ← wrapping "assess capital: %w" [] (validateAssessmentInput input)
  let profile := (Policy.profileOf input.policy input.binding.profile).getD zeroProfile
  sealAssessment
    (if profile.unlimited then unlimitedAssessment input policy state else finiteAssessment input policy state profile)
    input policy state

end Augr.Capital

import Augr.Lifecycle.Commands
import Augr.Simulation.Policy

/-! What the venue makes of one depth level: the fee, the retained evidence and the fill transition. -/

set_option autoImplicit false

namespace Augr.Simulation

open Foundation Lifecycle MarketData Ledger Json

def Policy.assetPolicy (policy : Policy) (assetClass : AssetClass) : Option AssetPolicy :=
  policy.assets.find? fun candidate => candidate.assetClass == assetClass

def unknownAsset (assetClass : AssetClass) : Fault :=
  .errorf "simulation policy has no asset policy for %q" [assetClass.text]

def SessionWindow.holds (session : SessionWindow) (moment : Instant) : Bool :=
  !moment.before session.openAt && moment.before session.closeAt

def outsideFormat : String := "simulation route time %s is outside explicit sessions for %q"

/-- A continuous calendar has no session. -/
def Policy.routeSession (policy : Policy) (assetClass : AssetClass) (routedAt : Instant) :
    Outcome (Option SessionWindow) := do
  let asset ← required (unknownAsset assetClass) (policy.assetPolicy assetClass)
  validatePolicyTime routedAt "route"
  if asset.calendar.kind = .continuous24x7 then pure none
  else do
    let session ← required (.errorf outsideFormat [routedAt.format, assetClass.text])
      (asset.calendar.sessions.find? fun session => session.holds routedAt)
    pure (some session)

/-- The charge of one fill; the components are rounded once, together. -/
def FeePolicy.charge (fees : FeePolicy) (quantity price multiplier : Decimal) (firstFill : Bool) : Decimal :=
  let perUnit := fees.perUnit.mul quantity
  let fee := if firstFill then perUnit.add fees.perOrder else perUnit
  let notionalFee := (((price.mul quantity).mul multiplier).mul fees.notionalBPS).div (.newFromInt 10000)
  (fee.add notionalFee).round fees.scale

/-- No fee when the charge rounds to zero. -/
def Policy.fillFee (policy : Policy) (assetClass : AssetClass) (quantity price multiplier : Decimal) (firstFill : Bool) :
    Outcome (Option Decimal) := do
  let asset ← required (unknownAsset assetClass) (policy.assetPolicy assetClass)
  validatePositivePolicyDecimal "fill quantity" quantity
  validateNonnegativePolicyDecimal "fill price" price
  validatePositivePolicyDecimal "fill multiplier" multiplier
  let fee := asset.fees.charge quantity price multiplier firstFill
  if fee.isZero then pure none
  else do
    validatePositivePolicyDecimal "computed fill fee" fee
    pure (some fee)

def observationEvidenceSchema : String := "simulation-observation-v1"

def fillEvidenceSchema : String := "simulation-fill-v1"

def intText (value : Int) : String := String.ofList (intDigits value)

def formatSimulationTime (value : Instant) : String := if value.isZero then "" else value.normalize.format

def formatOptionalSimulationTime (value : Option Instant) : String := (value.map formatSimulationTime).getD ""

def simulationSourceNamespace (account : Account) (kind : String) : Outcome String := do
  let path := "simulation/" ++ account.environment.text ++ "/" ++ account.storageNamespace ++ "/" ++
    account.evidenceClass ++ "/" ++ kind ++ "-v1"
  failIf (path != Text.trimSpace path || 256 < Text.byteLength path)
    (.errorf "simulation source namespace exceeds the lifecycle limit" [])
  pure path

def simulationFillSourceEventID (orderID snapshotID : String) (side : DepthSide) (level : Int) : String :=
  "orders/" ++ orderID ++ "/snapshots/" ++ snapshotID ++ "/fills/" ++ side.text ++ "/" ++ intText level

def simulationObservationSourceEventID (orderID snapshotID kind discriminator : String) : String :=
  "orders/" ++ orderID ++ (if snapshotID = "" then "" else "/snapshots/" ++ snapshotID) ++ "/" ++ kind ++
    (if discriminator = "" then "" else "/" ++ discriminator)

def simulationExternalOrderID (orderID : String) : String := "simulation/" ++ orderID

def marshalSimulationObservationEvidence (policy : Policy) (account : Account) (order : Order)
    (snapshot : Option QuoteSnapshot) (kind reason : String) (evaluatedAt sourceAt receivedAt : Instant)
    (session : Option SessionWindow) : RawMessage :=
  encodeObject [
    ("schema", quote observationEvidenceSchema),
    ("kind", quote kind),
    ("reason", quote reason),
    ("order_id", quote order.id.toText),
    ("snapshot_id", quote ((snapshot.map fun s => s.id.toText).getD "")),
    ("policy_artifact_id", quote policy.artifactID.toText),
    ("policy_version", quote policy.version),
    ("environment", quote account.environment.text),
    ("evidence_class", quote account.evidenceClass),
    ("storage_namespace", quote account.storageNamespace),
    ("evaluated_at", quote (formatSimulationTime evaluatedAt)),
    ("source_at", quote (formatSimulationTime sourceAt)),
    ("received_at", quote (formatSimulationTime receivedAt)),
    ("available_at", quote ((snapshot.map fun s => formatOptionalSimulationTime s.availableAt).getD "")),
    ("route_session_label", quote ((session.map SessionWindow.label).getD "")),
    ("route_session_close", quote ((session.map fun s => formatSimulationTime s.closeAt).getD ""))]

structure SimulationFillInput where
  policy : Policy
  asset : AssetPolicy
  account : Account
  instrument : Instrument
  venueContract : VenueContract
  snapshot : QuoteSnapshot
  assessment : QuoteAssessment
  evaluatedAt : Instant
  routeSession : Option SessionWindow

structure EligibleLevel where
  level : DepthLevel
  capacity : Decimal

def marshalSimulationFillEvidence (input : SimulationFillInput) (order : Order) (candidate : EligibleLevel)
    (quantity : Decimal) (fee : Option Decimal) (firstFill : Bool) : RawMessage :=
  let snapshot := input.snapshot
  let asset := input.asset
  encodeObject [
    ("schema", quote fillEvidenceSchema),
    ("order_id", quote order.id.toText),
    ("snapshot_id", quote snapshot.id.toText),
    ("provider", quote snapshot.provider),
    ("venue", quote snapshot.venue),
    ("exchange_at", quote (formatOptionalSimulationTime snapshot.exchangeAt)),
    ("received_at", quote (formatSimulationTime snapshot.receivedAt)),
    ("available_at", quote (formatOptionalSimulationTime snapshot.availableAt)),
    ("evaluated_at", quote (formatSimulationTime input.evaluatedAt)),
    ("exchange_age_nanoseconds", quote ((input.assessment.exchangeAge.map intText).getD "")),
    ("receive_age_nanoseconds", encodeInt input.assessment.receiveAge),
    ("available_age_nanoseconds", encodeInt input.assessment.availabilityAge),
    ("policy_artifact_id", quote input.policy.artifactID.toText),
    ("policy_version", quote input.policy.version),
    ("environment", quote input.account.environment.text),
    ("evidence_class", quote input.account.evidenceClass),
    ("storage_namespace", quote input.account.storageNamespace),
    ("route_session_label", quote ((input.routeSession.map SessionWindow.label).getD "")),
    ("route_session_close", quote ((input.routeSession.map fun s => formatSimulationTime s.closeAt).getD "")),
    ("fixed_latency_nanoseconds", encodeInt asset.fixedLatency),
    ("side", quote order.side.text),
    ("order_type", quote order.orderType.text),
    ("time_in_force", quote order.timeInForce.text),
    ("depth_side", quote candidate.level.side.text),
    ("depth_level", encodeInt candidate.level.level),
    ("displayed_size", quote candidate.level.size.toText),
    ("participation", quote asset.maxDepthParticipation.toText),
    ("capacity", quote candidate.capacity.toText),
    ("quantity", quote quantity.toText),
    ("price", quote candidate.level.price.toText),
    ("multiplier", quote input.venueContract.multiplier.toText),
    ("fee_per_order", quote asset.fees.perOrder.toText),
    ("fee_per_unit", quote asset.fees.perUnit.toText),
    ("fee_notional_bps", quote asset.fees.notionalBPS.toText),
    ("fee_scale", encodeInt asset.fees.scale),
    ("fee_amount", quote ((fee.map Decimal.toText).getD "0")),
    ("first_fill", encodeBool firstFill)]

structure FillEffect where
  fill : Fill
  depthSide : DepthSide
  depthLevel : Int
  (displayedSize capacity quantity price : Decimal)
  fee : Option Decimal
  (sourceNamespace sourceEventID : String)
  evidence : RawMessage
  (policyVersion normalizerVersion : String)

/-- The clock readings of one fill, in the order they are taken. -/
structure FillClocks where
  stored : Reading
  normalized : Clocks
  (validated recorded : Reading)

def simulationEvent (path eventID revision : String) (sourceAt receivedAt : Instant) (reasonCode : String)
    (evidence : RawMessage) : EventInput where
  source := "simulation"
  sourceNamespace := path
  sourceEventID := eventID
  sourceRevision := revision
  observationClass := .unrecognized ""
  observationDiscriminator := ""
  sourceAt := sourceAt
  receivedAt := receivedAt
  actor := "simulation-venue"
  reasonCode := reasonCode
  reason := ""
  evidence := evidence
  originalFillID := none
  originalSourceEventID := ""

def simulationSnapshotSourceAt (snapshot : QuoteSnapshot) : Instant := snapshot.exchangeAt.getD snapshot.receivedAt

def fillNormalizationInput (input : SimulationFillInput) (intent : Intent) (order : Order) (candidate : EligibleLevel)
    (quantity : Decimal) (fee : Option Decimal) (source : EconomicSourceEvent) : FillEconomicEventInput where
  base :=
    { sourceEvent := some source
      account := some input.account
      normalizerVersion := fillEvidenceSchema ++ "@sha256:" ++ input.policy.digest
      executionOriginType := intent.originType
      executionOriginID := intent.originID
      referenceType := "execution_fill"
      referenceID := (fillIdentity order.id source.id).toText
      effectiveAt := simulationSnapshotSourceAt input.snapshot }
  instrument := input.instrument
  venueContract := input.venueContract
  side := if order.side = .sell then .sell else .buy
  quantity := quantity
  price := candidate.level.price
  cost := fee.map fun amount => ⟨.fee, input.venueContract.currency, amount⟩

def buildSimulationFill (clocks : FillClocks) (input : SimulationFillInput) (a : Aggregate) (candidate : EligibleLevel)
    (quantity : Decimal) : Outcome (Transition × FillEffect) := do
  let order ← required (.errorf "build simulation fill: policy and routed lifecycle are required" []) a.order
  let firstFill := a.fills.isEmpty
  let fee ← wrapping "build simulation fill fee: %w" [] (input.policy.fillFee input.instrument.assetClass quantity
    candidate.level.price input.venueContract.multiplier firstFill)
  let evidence := marshalSimulationFillEvidence input order candidate quantity fee firstFill
  let path ← simulationSourceNamespace input.account "fill"
  let eventID := simulationFillSourceEventID order.id.toText input.snapshot.id.toText candidate.level.side
    candidate.level.level
  let source ← wrapping "build simulation raw fill event: %w" [] (newEconomicSourceEvent clocks.stored
    { accountID := input.account.id
      source := "simulation"
      sourceNamespace := path
      sourceEventID := eventID
      sourceRevision := input.snapshot.sourceRevision
      observedAt := input.snapshot.receivedAt
      rawPayload := evidence
      createdAt := input.evaluatedAt })
  let normalization ← wrapping "build simulation fill normalization: %w" []
    (newFillEconomicNormalization clocks.normalized
      (fillNormalizationInput input a.intent order candidate quantity fee source))
  let transition ← wrapping "build simulation lifecycle fill: %w" [] (recordFill clocks.validated clocks.recorded (some a)
    { normalization := some normalization
      externalOrderID := simulationExternalOrderID order.id.toText
      event := simulationEvent path eventID input.snapshot.sourceRevision (simulationSnapshotSourceAt input.snapshot)
        input.snapshot.receivedAt "depth_fill" evidence
      createdAt := input.evaluatedAt })
  let fill ← deref "Fill" transition.fill
  pure (transition,
    { fill := fill
      depthSide := candidate.level.side
      depthLevel := candidate.level.level
      displayedSize := candidate.level.size
      capacity := candidate.capacity
      quantity := quantity
      price := candidate.level.price
      fee := fee
      sourceNamespace := path
      sourceEventID := eventID
      evidence := evidence
      policyVersion := input.policy.version
      normalizerVersion := fillEvidenceSchema ++ "@sha256:" ++ input.policy.digest })

end Augr.Simulation

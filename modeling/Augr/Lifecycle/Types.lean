import Augr.Ledger.Normalization

/-! The facts of one execution lifecycle: intent, order, binding, fills and events. -/

set_option autoImplicit false

namespace Augr.Lifecycle

open Foundation Ledger Text

inductive State where
  | none
  | proposed
  | allocated
  | riskApproved
  | riskRejected
  | routed
  | working
  | partiallyFilled
  | filled
  | cancelled
  | expired
  | rejected
  | failedReconciliation
  | unrecognized (text : String)
  deriving DecidableEq, Repr

def State.text : State → String
  | .none => ""
  | .proposed => "proposed"
  | .allocated => "allocated"
  | .riskApproved => "risk_approved"
  | .riskRejected => "risk_rejected"
  | .routed => "routed"
  | .working => "working"
  | .partiallyFilled => "partially_filled"
  | .filled => "filled"
  | .cancelled => "cancelled"
  | .expired => "expired"
  | .rejected => "rejected"
  | .failedReconciliation => "failed_reconciliation"
  | .unrecognized text => text

inductive EventKind where
  | intentProposed
  | intentAllocated
  | riskApproved
  | riskRejected
  | orderRouted
  | orderWorking
  | cancelRequested
  | fillAcknowledged
  | fillRecorded
  | orderCancelled
  | orderExpired
  | orderRejected
  | unknownVenueState
  | contradictoryVenueState
  | fillCorrectionObserved
  | fillBustObserved
  | unrecognized (text : String)
  deriving DecidableEq, Repr

def EventKind.text : EventKind → String
  | .intentProposed => "intent_proposed"
  | .intentAllocated => "intent_allocated"
  | .riskApproved => "risk_approved"
  | .riskRejected => "risk_rejected"
  | .orderRouted => "order_routed"
  | .orderWorking => "order_working"
  | .cancelRequested => "cancel_requested"
  | .fillAcknowledged => "fill_acknowledged"
  | .fillRecorded => "fill_recorded"
  | .orderCancelled => "order_cancelled"
  | .orderExpired => "order_expired"
  | .orderRejected => "order_rejected"
  | .unknownVenueState => "unknown_venue_state"
  | .contradictoryVenueState => "contradictory_venue_state"
  | .fillCorrectionObserved => "fill_correction_observed"
  | .fillBustObserved => "fill_bust_observed"
  | .unrecognized text => text

/-- An unset class is `unrecognized ""`. -/
inductive ObservationClass where
  | ordinary
  | correction
  | bust
  | unrecognized (text : String)
  deriving DecidableEq, Repr

def ObservationClass.text : ObservationClass → String
  | .ordinary => "ordinary"
  | .correction => "correction"
  | .bust => "bust"
  | .unrecognized text => text

/-- An unset policy is `unrecognized ""`. -/
inductive PolicyKind where
  | simulation
  | venue
  | unrecognized (text : String)
  deriving DecidableEq, Repr

def PolicyKind.text : PolicyKind → String
  | .simulation => "simulation"
  | .venue => "venue"
  | .unrecognized text => text

inductive Side where
  | buy
  | sell
  | unrecognized (text : String)
  deriving DecidableEq, Repr

def Side.text : Side → String
  | .buy => "buy"
  | .sell => "sell"
  | .unrecognized text => text

inductive OrderType where
  | market
  | limit
  | stop
  | stopLimit
  | unrecognized (text : String)
  deriving DecidableEq, Repr

def OrderType.text : OrderType → String
  | .market => "market"
  | .limit => "limit"
  | .stop => "stop"
  | .stopLimit => "stop_limit"
  | .unrecognized text => text

inductive TimeInForce where
  | day
  | gtc
  | ioc
  | fok
  | gtd
  | unrecognized (text : String)
  deriving DecidableEq, Repr

def TimeInForce.text : TimeInForce → String
  | .day => "day"
  | .gtc => "gtc"
  | .ioc => "ioc"
  | .fok => "fok"
  | .gtd => "gtd"
  | .unrecognized text => text

structure Intent where
  (id accountID : Uuid)
  environment : AccountEnvironment
  instrumentID : Uuid
  idempotencyKey : String
  desiredQuantityDelta : Decimal
  decisionQuoteSnapshotID : Uuid
  decisionAt : Instant
  originType : ExecutionOriginType
  (originID strategyVersionID : String)
  metadata : RawMessage
  createdAt : Instant
  deriving DecidableEq

structure Order where
  (id intentID accountID instrumentID : Uuid)
  (idempotencyKey clientOrderID : String)
  side : Side
  orderType : OrderType
  timeInForce : TimeInForce
  quantity : Decimal
  (limitPrice stopPrice : Option Decimal)
  venue : String
  (venueContractID routeQuoteSnapshotID : Uuid)
  routedAt : Instant
  policyKind : PolicyKind
  policyVersion : String
  createdAt : Instant
  deriving DecidableEq

structure OrderBinding where
  (id orderID accountID : Uuid)
  (venue externalOrderID : String)
  createdAt : Instant
  deriving DecidableEq

structure Fill where
  (id intentID orderID accountID instrumentID venueContractID economicSourceEventID : Uuid)
  (normalizationID ledgerTransactionID : Uuid)
  side : Side
  (quantity price : Decimal)
  (source sourceNamespace sourceEventID sourceRevision : String)
  (effectiveAt receivedAt createdAt : Instant)
  deriving DecidableEq

/-- The ingest sequence is assigned by the database; it is zero before that. -/
structure Event where
  id : Uuid
  ingestSequence : Int
  intentID : Uuid
  (orderID bindingID fillID : Option Uuid)
  kind : EventKind
  observationClass : ObservationClass
  observationDiscriminator : String
  (priorState nextState : State)
  accountID : Uuid
  environment : AccountEnvironment
  originType : ExecutionOriginType
  (originID strategyVersionID : String)
  policyKind : PolicyKind
  policyVersion : String
  (quantityDelta cumulativeFillQuantity : Option Decimal)
  quoteSnapshotID : Option Uuid
  (source sourceNamespace sourceEventID sourceRevision : String)
  (sourceAt receivedAt : Instant)
  (actor reasonCode reason : String)
  evidence : RawMessage
  evidenceSHA256 : String
  originalFillID : Option Uuid
  originalSourceEventID : String
  createdAt : Instant
  deriving DecidableEq

structure Aggregate where
  intent : Intent
  state : State
  allocatedQuantity : Option Decimal
  order : Option Order
  binding : Option OrderBinding
  fills : List Fill
  events : List Event
  deriving DecidableEq

/-- One event with the child facts that are stored together with it. -/
structure Transition where
  event : Event
  order : Option Order
  binding : Option OrderBinding
  fill : Option Fill
  normalization : Option EconomicNormalization
  deriving DecidableEq

structure EventInput where
  (source sourceNamespace sourceEventID sourceRevision : String)
  observationClass : ObservationClass
  observationDiscriminator : String
  (sourceAt receivedAt : Instant)
  (actor reasonCode reason : String)
  evidence : RawMessage
  originalFillID : Option Uuid
  originalSourceEventID : String

def validOrigin : ExecutionOriginType → Bool
  | .unrecognized _ => false
  | _ => true

def validExactDecimal (value : Decimal) (allowZero : Bool) : Bool :=
  !(!allowZero && value.isZero || !value.equal (value.round 12)) && value.abs.lessThan ⟨1, 26⟩

/-- One object and nothing after it; numbers of any size are kept as text. -/
def validateJSONObject (value : RawMessage) (label : String) : Outcome Unit := do
  failIf value.isEmpty (.errorf "%s must be a JSON object" [label])
  match Json.decodeFirst Json.anyNumber value with
  | some (.object _, rest) =>
      failIf (!(Json.skipSpace rest).isEmpty) (.errorf "%s must contain exactly one JSON object" [label])
  | _ => .error (.errorf "%s must be a JSON object" [label])

def normalizeTime (value : Instant) : Instant := if value.isZero then .zero else value.normalize

def creationTime (clock : Reading) (value : Instant) : Instant :=
  if (normalizeTime value).isZero then clock.now else normalizeTime value

def eventIdentitySourceEventID (observationClass : ObservationClass) (sourceEventID originalSourceEventID : String) :
    String :=
  if observationClass = .ordinary then sourceEventID else originalSourceEventID

def Event.identity (event : Event) : Uuid :=
  deterministicUUID "execution-lifecycle-event"
    [event.intentID.toText, event.observationClass.text, event.source, event.sourceNamespace,
      eventIdentitySourceEventID event.observationClass event.sourceEventID event.originalSourceEventID,
      event.observationDiscriminator]

def revisionMark : String := "revision:"

def EventInput.toEvent (input : EventInput) (intent : Intent) (kind : EventKind) (prior next : State)
    (createdAt : Instant) : Event :=
  { id := Uuid.nil
    ingestSequence := 0
    intentID := intent.id
    orderID := none
    bindingID := none
    fillID := none
    kind := kind
    observationClass := if input.observationClass.text = "" then .ordinary else input.observationClass
    observationDiscriminator := trimSpace input.observationDiscriminator
    priorState := prior
    nextState := next
    accountID := intent.accountID
    environment := intent.environment
    originType := intent.originType
    originID := intent.originID
    strategyVersionID := intent.strategyVersionID
    policyKind := .unrecognized ""
    policyVersion := ""
    quantityDelta := none
    cumulativeFillQuantity := none
    quoteSnapshotID := none
    source := toLower (trimSpace input.source)
    sourceNamespace := trimSpace input.sourceNamespace
    sourceEventID := trimSpace input.sourceEventID
    sourceRevision := trimSpace input.sourceRevision
    sourceAt := normalizeTime input.sourceAt
    receivedAt := normalizeTime input.receivedAt
    actor := trimSpace input.actor
    reasonCode := toLower (trimSpace input.reasonCode)
    reason := trimSpace input.reason
    evidence := input.evidence
    evidenceSHA256 := sha256Hex input.evidence
    originalFillID := input.originalFillID
    originalSourceEventID := trimSpace input.originalSourceEventID
    createdAt := createdAt }

/-- Which correction evidence an event may be built with. -/
def Event.checkObservation (event : Event) : Outcome Unit :=
  if event.observationClass = .ordinary then
    failIf (event.observationDiscriminator != "" || event.originalFillID.isSome || event.originalSourceEventID != "")
      (.errorf "ordinary lifecycle event cannot carry correction identity" [])
  else do
    failIf (event.observationClass != .correction && event.observationClass != .bust)
      (.errorf "invalid lifecycle observation class %q" [event.observationClass.text])
    failIf (event.observationDiscriminator == "" || !event.originalFillID.any (· != Uuid.nil) ||
        event.originalSourceEventID == "")
      (.errorf "correction or bust observation requires discriminator and original fill identity" [])
    failIf (hasPrefix event.observationDiscriminator revisionMark &&
        (event.sourceRevision == "" || event.observationDiscriminator != revisionMark ++ event.sourceRevision))
      (.errorf "correction revision discriminator must match nonempty source revision" [])

def newEvent (clock : Reading) (intent : Intent) (kind : EventKind) (prior next : State) (input : EventInput)
    (createdAt : Instant) : Outcome Event := do
  let event := input.toEvent intent kind prior next (creationTime clock createdAt)
  failIf (event.source == "" || event.sourceNamespace == "" || event.sourceEventID == "")
    (.errorf "lifecycle event source identity is required" [])
  failIf (event.actor == "" || event.reasonCode == "")
    (.errorf "lifecycle event actor and reason code are required" [])
  failIf (input.sourceAt.isZero || input.receivedAt.isZero)
    (.errorf "lifecycle event source and receive times are required" [])
  failIf (event.sourceAt.after event.receivedAt)
    (.errorf "lifecycle event source time cannot follow receive time" [])
  validateJSONObject event.evidence "lifecycle event evidence"
  event.checkObservation
  pure { event with id := event.identity }

namespace Event

/-- Which correction evidence the event may carry. -/
def validateObservation (event : Event) : Outcome Unit :=
  match event.observationClass with
  | .ordinary =>
      failIf (event.observationDiscriminator != "" || event.originalFillID.isSome || event.originalSourceEventID != "")
        (.errorf "ordinary lifecycle event carries correction identity" [])
  | .correction | .bust => do
      failIf (event.observationDiscriminator == "" ||
          event.observationDiscriminator != trimSpace event.observationDiscriminator ||
          !event.originalFillID.any (· != Uuid.nil) || event.originalSourceEventID == "" ||
          event.originalSourceEventID != trimSpace event.originalSourceEventID)
        (.errorf "correction or bust lifecycle event identity is incomplete" [])
      failIf (hasPrefix event.observationDiscriminator revisionMark &&
          (event.sourceRevision == "" || event.observationDiscriminator != revisionMark ++ event.sourceRevision))
        (.errorf "correction revision discriminator does not match source revision" [])
      failIf ((event.observationClass == .correction) != (event.kind == .fillCorrectionObserved) ||
          (event.observationClass == .bust) != (event.kind == .fillBustObserved))
        (.errorf "correction or bust observation class does not match event kind" [])
  | .unrecognized _ => .error (.errorf "lifecycle event observation class is invalid" [])

def isFill (event : Event) : Bool := event.kind == .fillAcknowledged || event.kind == .fillRecorded

def validate (event : Event) : Outcome Unit := do
  failIf (event.id == Uuid.nil || event.intentID == Uuid.nil || event.accountID == Uuid.nil)
    (.errorf "lifecycle event identity is required" [])
  failIf (event.kind.text == "" || event.nextState == .none || !event.environment.isValid ||
      !validOrigin event.originType)
    (.errorf "lifecycle event kind, state, environment, and origin are required" [])
  failIf (!isNormalizedLower event.source || !isNormalizedRequired event.sourceNamespace ||
      !isNormalizedRequired event.sourceEventID || event.sourceRevision != trimSpace event.sourceRevision)
    (.errorf "lifecycle event source identity must be normalized" [])
  failIf (!isNormalizedRequired event.actor || !isNormalizedLower event.reasonCode ||
      event.reason != trimSpace event.reason)
    (.errorf "lifecycle event actor and reason must be normalized" [])
  failIf (!event.sourceAt.isCanonical || !event.receivedAt.isCanonical || event.sourceAt.after event.receivedAt)
    (.errorf "lifecycle event timestamps must be ordered UTC microseconds" [])
  failIf (!event.createdAt.isCanonical)
    (.errorf "lifecycle event creation time must use UTC microsecond precision" [])
  validateJSONObject event.evidence "lifecycle event evidence"
  failIf (event.evidenceSHA256 != sha256Hex event.evidence) (.errorf "lifecycle event evidence hash mismatch" [])
  event.validateObservation
  failIf (event.isFill != event.cumulativeFillQuantity.isSome)
    (.errorf "lifecycle event cumulative fill quantity must exist exactly on fill events" [])
  failIf (event.id != event.identity) (.errorf "lifecycle event ID does not match deterministic identity" [])

end Event

def Intent.identity (intent : Intent) : Uuid :=
  deterministicUUID "execution-intent" [intent.accountID.toText, intent.idempotencyKey]

def Intent.validate (intent : Intent) : Outcome Unit := do
  failIf (intent.id == Uuid.nil || intent.accountID == Uuid.nil || intent.instrumentID == Uuid.nil ||
      intent.decisionQuoteSnapshotID == Uuid.nil)
    (.errorf "execution intent IDs are required" [])
  failIf (!intent.environment.isValid) (.errorf "execution intent environment is invalid" [])
  failIf (trimSpace intent.idempotencyKey == "" || intent.idempotencyKey != trimSpace intent.idempotencyKey)
    (.errorf "execution intent idempotency key must be normalized" [])
  failIf (!validExactDecimal intent.desiredQuantityDelta false)
    (.errorf "execution intent desired quantity is invalid" [])
  failIf (!intent.decisionAt.isCanonical)
    (.errorf "execution intent decision time must use UTC microsecond precision" [])
  failIf (!validOrigin intent.originType || !isNormalizedRequired intent.originID)
    (.errorf "execution intent origin is invalid" [])
  failIf (intent.strategyVersionID != trimSpace intent.strategyVersionID ||
      intent.originType == .strategyVersion && intent.strategyVersionID != intent.originID)
    (.errorf "execution intent strategy version is invalid" [])
  validateJSONObject intent.metadata "execution intent metadata"
  failIf (!intent.createdAt.isCanonical)
    (.errorf "execution intent creation time must use UTC microsecond precision" [])
  failIf (intent.id != intent.identity) (.errorf "execution intent ID does not match deterministic identity" [])

def validOrderType : OrderType → Bool
  | .unrecognized _ => false
  | _ => true

def validTimeInForce : TimeInForce → Bool
  | .unrecognized _ => false
  | _ => true

def Order.identity (order : Order) : Uuid :=
  deterministicUUID "execution-order" [order.intentID.toText, order.idempotencyKey]

def Order.validate (order : Order) : Outcome Unit := do
  failIf (order.id == Uuid.nil || order.intentID == Uuid.nil || order.accountID == Uuid.nil ||
      order.instrumentID == Uuid.nil || order.venueContractID == Uuid.nil || order.routeQuoteSnapshotID == Uuid.nil)
    (.errorf "execution order IDs are required" [])
  failIf (!isNormalizedRequired order.idempotencyKey || order.clientOrderID != order.id.toText)
    (.errorf "execution order identity is invalid" [])
  failIf (order.side != .buy && order.side != .sell) (.errorf "execution order side is invalid" [])
  failIf (!validExactDecimal order.quantity false || !order.quantity.isPositive || !validTimeInForce order.timeInForce)
    (.errorf "execution order quantity or time in force is invalid" [])
  failIf (!validOrderType order.orderType || !isNormalizedLower order.venue)
    (.errorf "execution order type or venue is invalid" [])
  failIf (order.policyKind != .simulation && order.policyKind != .venue || !isNormalizedRequired order.policyVersion)
    (.errorf "execution order policy is invalid" [])
  failIf (!order.routedAt.isCanonical || !order.createdAt.isCanonical)
    (.errorf "execution order timestamps must use UTC microsecond precision" [])
  forEach (fun price : Option Decimal => failIf (price.any fun price => !validExactDecimal price true || price.isNegative)
    (.errorf "execution order price is invalid" [])) [order.limitPrice, order.stopPrice]
  failIf (order.id != order.identity) (.errorf "execution order ID does not match deterministic identity" [])

def OrderBinding.identity (binding : OrderBinding) : Uuid :=
  deterministicUUID "execution-order-binding" [binding.orderID.toText]

def OrderBinding.validate (binding : OrderBinding) : Outcome Unit := do
  failIf (binding.id == Uuid.nil || binding.orderID == Uuid.nil || binding.accountID == Uuid.nil ||
      !isNormalizedLower binding.venue || !isNormalizedRequired binding.externalOrderID)
    (.errorf "execution order binding identity is invalid" [])
  failIf (!binding.createdAt.isCanonical)
    (.errorf "execution order binding creation time must use UTC microsecond precision" [])
  failIf (binding.id != binding.identity)
    (.errorf "execution order binding ID does not match deterministic identity" [])

def fillIdentity (orderID economicSourceEventID : Uuid) : Uuid :=
  deterministicUUID "execution-fill" [orderID.toText, economicSourceEventID.toText]

def Fill.validate (fill : Fill) : Outcome Unit := do
  failIf (fill.id == Uuid.nil || fill.intentID == Uuid.nil || fill.orderID == Uuid.nil || fill.accountID == Uuid.nil ||
      fill.instrumentID == Uuid.nil || fill.venueContractID == Uuid.nil || fill.economicSourceEventID == Uuid.nil ||
      fill.normalizationID == Uuid.nil || fill.ledgerTransactionID == Uuid.nil)
    (.errorf "execution fill IDs are required" [])
  failIf (fill.side != .buy && fill.side != .sell || !fill.quantity.isPositive || fill.price.isNegative ||
      !validExactDecimal fill.quantity false || !validExactDecimal fill.price true)
    (.errorf "execution fill side, quantity, or price is invalid" [])
  failIf (!isNormalizedLower fill.source || !isNormalizedRequired fill.sourceNamespace ||
      !isNormalizedRequired fill.sourceEventID || fill.sourceRevision != trimSpace fill.sourceRevision)
    (.errorf "execution fill source identity is invalid" [])
  -- The program ranges over a map here; which time is reported first is not fixed.
  forEach (fun (entry : String × Instant) => failIf (!entry.2.isCanonical)
      (.errorf "execution fill %s time must use UTC microsecond precision" [entry.1]))
    [("effective", fill.effectiveAt), ("received", fill.receivedAt), ("created", fill.createdAt)]
  failIf (fill.effectiveAt.after fill.receivedAt)
    (.errorf "execution fill effective time cannot follow receive time" [])
  failIf (fill.id != fillIdentity fill.orderID fill.economicSourceEventID)
    (.errorf "execution fill ID does not match deterministic identity" [])

end Augr.Lifecycle

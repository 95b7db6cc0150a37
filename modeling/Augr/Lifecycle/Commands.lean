import Augr.Lifecycle.Aggregate
import Augr.MarketData.Snapshot

/-! The commands that build the transitions of a lifecycle. -/

set_option autoImplicit false

namespace Augr.Lifecycle

open Foundation Ledger MarketData Text

/-- The aggregate that a command may work on, or its refusal. -/
def admitting (aggregate : Option Aggregate) (ready : Aggregate → Bool) (refusal : String) : Outcome Aggregate :=
  match aggregate.filter ready with
  | some a => .ok a
  | none => .error (.errorf refusal [])

def Event.alone (event : Event) : Transition := ⟨event, none, none, none, none⟩

structure ProposeInput where
  account : Account
  instrument : Instrument
  decisionSnapshot : QuoteSnapshot
  idempotencyKey : String
  desiredQuantityDelta : Decimal
  decisionAt : Instant
  originType : ExecutionOriginType
  (originID strategyVersionID : String)
  metadata : RawMessage
  event : EventInput
  createdAt : Instant

def ProposeInput.toIntent (input : ProposeInput) (createdAt : Instant) : Intent :=
  { id := Uuid.nil
    accountID := input.account.id
    environment := input.account.environment
    instrumentID := input.instrument.id
    idempotencyKey := trimSpace input.idempotencyKey
    desiredQuantityDelta := input.desiredQuantityDelta
    decisionQuoteSnapshotID := input.decisionSnapshot.id
    decisionAt := normalizeTime input.decisionAt
    originType := input.originType
    originID := trimSpace input.originID
    strategyVersionID := trimSpace input.strategyVersionID
    metadata := input.metadata
    createdAt := createdAt }

def propose (clock : Reading) (input : ProposeInput) : Outcome Aggregate := do
  wrapping "propose execution intent: invalid account: %w" [] input.account.validate
  failIf (input.account.status != .active) (.errorf "propose execution intent: account must be active" [])
  wrapping "propose execution intent: invalid instrument: %w" [] input.instrument.validate
  failIf (input.instrument.status != .active) (.errorf "propose execution intent: instrument must be active" [])
  wrapping "propose execution intent: invalid decision snapshot: %w" [] input.decisionSnapshot.validate
  failIf (input.decisionSnapshot.instrumentID != input.instrument.id)
    (.errorf "propose execution intent: decision snapshot instrument mismatch" [])
  let decisionAt := normalizeTime input.decisionAt
  failIf decisionAt.isZero (.errorf "propose execution intent: decision time is required" [])
  failIf (input.instrument.expiration.any fun expiration => !decisionAt.before expiration)
    (.errorf "propose execution intent: instrument is expired at decision time" [])
  failIf input.decisionSnapshot.availableAt.isNone
    (.errorf "propose execution intent: decision snapshot availability is required" [])
  failIf (input.decisionSnapshot.availableAt.any fun availableAt => availableAt.after decisionAt)
    (.errorf "propose execution intent: decision snapshot was not available" [])
  failIf (!validExactDecimal input.desiredQuantityDelta false)
    (.errorf ("propose execution intent: desired quantity must be nonzero with at most 12 fractional and " ++
      "26 integer digits") [])
  let unnamed := input.toIntent (creationTime clock input.createdAt)
  failIf (unnamed.idempotencyKey == "") (.errorf "propose execution intent: idempotency key is required" [])
  failIf (!validOrigin unnamed.originType || unnamed.originID == "")
    (.errorf "propose execution intent: execution origin is required" [])
  failIf (unnamed.originType == .strategyVersion && unnamed.strategyVersionID != unnamed.originID)
    (.errorf "propose execution intent: strategy origin must match strategy version" [])
  validateJSONObject input.metadata "execution intent metadata"
  let intent := { unnamed with id := unnamed.identity }
  intent.validate
  let event ← wrapping "propose execution intent: %w" []
    (newEvent clock intent .intentProposed .none .proposed input.event intent.createdAt)
  let event := { event with
    quantityDelta := some intent.desiredQuantityDelta
    quoteSnapshotID := some intent.decisionQuoteSnapshotID }
  wrapping "propose execution intent: %w" [] event.validate
  pure (.opened intent event)

def allocate (clock : Reading) (aggregate : Option Aggregate) (quantity : Decimal) (input : EventInput)
    (createdAt : Instant) : Outcome Transition := do
  let a ← admitting aggregate (fun a => a.state == .proposed)
    "allocate execution intent: lifecycle must be proposed"
  failIf (!validExactDecimal quantity false || quantity.sign != a.intent.desiredQuantityDelta.sign ||
      quantity.abs.greaterThan a.intent.desiredQuantityDelta.abs)
    (.errorf "allocate execution intent: allocation must retain direction and not exceed desired quantity" [])
  let event ← wrapping "allocate execution intent: %w" []
    (newEvent clock a.intent .intentAllocated .proposed .allocated input createdAt)
  let event := { event with quantityDelta := some quantity }
  wrapping "allocate execution intent: %w" [] event.validate
  pure event.alone

def riskTransition (clock : Reading) (aggregate : Option Aggregate) (approved : Bool) (input : EventInput)
    (createdAt : Instant) : Outcome Transition := do
  let a ← admitting aggregate (fun a => a.state == .allocated && a.allocatedQuantity.isSome)
    "risk execution intent: lifecycle must contain an allocation"
  let kind := if approved then EventKind.riskApproved else .riskRejected
  let next := if approved then State.riskApproved else .riskRejected
  let event ← wrapping "risk execution intent: %w" [] (newEvent clock a.intent kind .allocated next input createdAt)
  let event := { event with quantityDelta := a.allocatedQuantity }
  wrapping "risk execution intent: %w" [] event.validate
  pure event.alone

def approveRisk (clock : Reading) (aggregate : Option Aggregate) (input : EventInput) (createdAt : Instant) :
    Outcome Transition :=
  riskTransition clock aggregate true input createdAt

def rejectRisk (clock : Reading) (aggregate : Option Aggregate) (input : EventInput) (createdAt : Instant) :
    Outcome Transition :=
  riskTransition clock aggregate false input createdAt

structure RouteInput where
  orderIdempotencyKey : String
  instrument : Instrument
  venueContract : VenueContract
  routeSnapshot : QuoteSnapshot
  quoteRequirements : QuoteRequirements
  orderType : OrderType
  timeInForce : TimeInForce
  (limitPrice stopPrice : Option Decimal)
  policyKind : PolicyKind
  policyVersion : String
  event : EventInput
  (routedAt createdAt : Instant)

def validateOrderPrices (orderType : OrderType) (limitPrice stopPrice : Option Decimal) (tick : Decimal) :
    Outcome Unit := do
  failIf (!validOrderType orderType) (.errorf "invalid order type %q" [orderType.text])
  -- The program ranges over a map here; which price is reported first is not fixed.
  forEach (fun (entry : String × Option Decimal) => failIf (entry.2.any fun price =>
        !validExactDecimal price true || price.isNegative || !Augr.isExactMultiple price tick)
      (.errorf "%s price is invalid or off tick" [entry.1]))
    [("limit", limitPrice), ("stop", stopPrice)]
  match orderType with
  | .market =>
      failIf (limitPrice.isSome || stopPrice.isSome) (.errorf "market order cannot carry limit or stop price" [])
  | .limit => failIf (limitPrice.isNone || stopPrice.isSome) (.errorf "limit order requires only limit price" [])
  | .stop => failIf (stopPrice.isNone || limitPrice.isSome) (.errorf "stop order requires only stop price" [])
  | .stopLimit =>
      failIf (limitPrice.isNone || stopPrice.isNone) (.errorf "stop-limit order requires limit and stop prices" [])
  | .unrecognized _ => .ok ()

def RouteInput.toOrder (input : RouteInput) (intent : Intent) (allocated : Decimal) (createdAt : Instant) : Order :=
  { id := Uuid.nil
    intentID := intent.id
    accountID := intent.accountID
    instrumentID := intent.instrumentID
    idempotencyKey := trimSpace input.orderIdempotencyKey
    clientOrderID := ""
    side := sideForDelta allocated
    orderType := input.orderType
    timeInForce := input.timeInForce
    quantity := allocated.abs
    limitPrice := input.limitPrice
    stopPrice := input.stopPrice
    venue := input.venueContract.venue
    venueContractID := input.venueContract.id
    routeQuoteSnapshotID := input.routeSnapshot.id
    routedAt := normalizeTime input.routedAt
    policyKind := input.policyKind
    policyVersion := trimSpace input.policyVersion
    createdAt := createdAt }

def Order.named (order : Order) : Order :=
  { order with id := order.identity, clientOrderID := order.identity.toText }

/-- The instrument, contract and quote of a route, checked before an order is made. -/
def checkRoute (a : Aggregate) (allocated : Decimal) (input : RouteInput) : Outcome Unit := do
  failIf (input.instrument.id != a.intent.instrumentID) (.errorf "route execution intent: instrument mismatch" [])
  wrapping "route execution intent: instrument is not executable: %w" [] input.instrument.validate
  failIf (input.instrument.status != .active)
    (.errorf "route execution intent: instrument is not executable: %w" [])
  wrapping "route execution intent: invalid venue contract: %w" [] input.venueContract.validate
  let routedAt := normalizeTime input.routedAt
  failIf routedAt.isZero (.errorf "route execution intent: route time is required" [])
  let assessment ← wrapping "route execution intent: quote is not executable: %w" []
    (input.routeSnapshot.assessForExecution routedAt input.quoteRequirements input.instrument input.venueContract)
  failIf (assessment.snapshotID != input.routeSnapshot.id ||
      assessment.venueContractID != some input.venueContract.id || !assessment.evaluatedAt.equal routedAt)
    (.errorf "route execution intent: quote assessment identity mismatch" [])
  failIf (!Augr.isExactMultiple allocated.abs input.venueContract.lotSize)
    (.errorf "route execution intent: quantity is not an exact venue lot" [])
  wrapping "route execution intent: %w" []
    (validateOrderPrices input.orderType input.limitPrice input.stopPrice input.venueContract.tickSize)
  failIf (!validTimeInForce input.timeInForce)
    (.errorf "route execution intent: invalid time in force %q" [input.timeInForce.text])
  failIf (input.policyKind != .simulation && input.policyKind != .venue)
    (.errorf "route execution intent: invalid policy kind %q" [input.policyKind.text])
  failIf (trimSpace input.policyVersion == "" || trimSpace input.orderIdempotencyKey == "")
    (.errorf "route execution intent: order idempotency key and policy version are required" [])

/-- The order context that the routed event and every later one repeat. -/
def Event.inContext (event : Event) (a : Aggregate) (order : Order) : Event :=
  { event with
    orderID := some order.id
    policyKind := order.policyKind
    policyVersion := order.policyVersion
    quantityDelta := a.allocatedQuantity }

def route (clock : Reading) (aggregate : Option Aggregate) (input : RouteInput) : Outcome Transition := do
  let a ← admitting aggregate
    (fun a => a.state == .riskApproved && a.allocatedQuantity.isSome && a.order.isNone)
    "route execution intent: lifecycle must contain one approved allocation and no order"
  let allocated ← deref "AllocatedQuantity" a.allocatedQuantity
  checkRoute a allocated input
  let order := (input.toOrder a.intent allocated (creationTime clock input.createdAt)).named
  wrapping "route execution intent: %w" [] order.validate
  let event ← wrapping "route execution intent: %w" []
    (newEvent clock a.intent .orderRouted .riskApproved .routed input.event order.createdAt)
  let event := { event.inContext a order with quoteSnapshotID := some order.routeQuoteSnapshotID }
  wrapping "route execution intent: %w" [] event.validate
  pure { event.alone with order := some order }

def newOrderBinding (intent : Intent) (order : Order) (externalOrderID : String) (createdAt : Instant) :
    Outcome OrderBinding := do
  failIf (trimSpace externalOrderID == "") (.errorf "external order ID is required" [])
  let unnamed : OrderBinding :=
    { id := Uuid.nil
      orderID := order.id
      accountID := intent.accountID
      venue := order.venue
      externalOrderID := trimSpace externalOrderID
      createdAt := createdAt }
  let binding := { unnamed with id := unnamed.identity }
  binding.validate
  pure binding

def acknowledge (clock : Reading) (aggregate : Option Aggregate) (externalOrderID : String) (input : EventInput)
    (createdAt : Instant) : Outcome Transition := do
  let a ← admitting aggregate (fun a => a.state == .routed && a.order.isSome && a.binding.isNone)
    "acknowledge execution order: lifecycle must be routed and unbound"
  let order ← deref "Order" a.order
  let createdAt := creationTime clock createdAt
  let binding ← wrapping "acknowledge execution order: %w" []
    (newOrderBinding a.intent order externalOrderID createdAt)
  let event ← wrapping "acknowledge execution order: %w" []
    (newEvent clock a.intent .orderWorking .routed .working input createdAt)
  let event := { event.inContext a order with bindingID := some binding.id }
  wrapping "acknowledge execution order: %w" [] event.validate
  pure { event.alone with binding := some binding }

structure FillInput where
  normalization : Option EconomicNormalization
  externalOrderID : String
  event : EventInput
  createdAt : Instant

/-- The evidence of the lifecycle event is the raw source event of the normalization. -/
def sameEvidence (source : EconomicSourceEvent) (input : EventInput) : Bool :=
  source.source == toLower (trimSpace input.source) &&
    source.sourceNamespace == trimSpace input.sourceNamespace &&
    source.sourceEventID == trimSpace input.sourceEventID &&
    source.sourceRevision == trimSpace input.sourceRevision &&
    source.observedAt.equal (normalizeTime input.receivedAt) && source.rawPayload == input.evidence

/-- A fill with every fact copied from the order and the normalization. -/
def newFill (a : Aggregate) (order : Order) (source : EconomicSourceEvent) (n : EconomicNormalization)
    (transaction : Transaction) (quantity price : Decimal) (createdAt : Instant) : Fill :=
  { id := fillIdentity order.id source.id
    intentID := a.intent.id
    orderID := order.id
    accountID := a.intent.accountID
    instrumentID := a.intent.instrumentID
    venueContractID := order.venueContractID
    economicSourceEventID := source.id
    normalizationID := n.id
    ledgerTransactionID := transaction.id
    side := order.side
    quantity := quantity
    price := price
    source := source.source
    sourceNamespace := source.sourceNamespace
    sourceEventID := source.sourceEventID
    sourceRevision := source.sourceRevision
    effectiveAt := n.effectiveAt
    receivedAt := source.observedAt
    createdAt := createdAt }

/-- The binding of a recorded fill: new on the first observation, else the one there is. -/
def fillBinding (a : Aggregate) (order : Order) (externalOrderID : String) (createdAt : Instant) :
    Outcome (OrderBinding × Option OrderBinding) :=
  if a.state = .routed then do
    failIf a.binding.isSome (.errorf "record execution fill: routed lifecycle unexpectedly has a binding" [])
    let binding ← wrapping "record execution fill: %w" [] (newOrderBinding a.intent order externalOrderID createdAt)
    pure (binding, some binding)
  else do
    failIf a.binding.isNone (.errorf "record execution fill: working lifecycle has no external binding" [])
    let binding ← deref "Binding" a.binding
    failIf (trimSpace externalOrderID != "" && trimSpace externalOrderID != binding.externalOrderID)
      (.errorf "record execution fill: external order ID does not match binding" [])
    pure (binding, none)

/-- The normalization is validated against the clock before the fill is stamped. -/
def recordFill (validated clock : Reading) (aggregate : Option Aggregate) (input : FillInput) :
    Outcome Transition := do
  let a ← admitting aggregate (fun a => a.order.isSome && a.allocatedQuantity.isSome)
    "record execution fill: routed lifecycle is required"
  let order ← deref "Order" a.order
  failIf (a.state != .routed && a.state != .working && a.state != .partiallyFilled)
    (.errorf "record execution fill: lifecycle state %q cannot accept a fill" [a.state.text])
  failIf input.normalization.isNone (.errorf "record execution fill: normalization is required" [])
  let n ← deref "Normalization" input.normalization
  wrapping "record execution fill: invalid normalization: %w" [] (n.validate validated)
  failIf (!n.sourceEvent.any fun source => source.id != Uuid.nil)
    (.errorf "record execution fill: raw economic source event is required" [])
  let source ← deref "SourceEvent" n.sourceEvent
  validateFillNormalization a.intent order (fillIdentity order.id source.id) n
  failIf (input.event.observationClass.text != "" && input.event.observationClass != .ordinary)
    (.errorf "record execution fill: fill event must use ordinary observation identity" [])
  failIf (!sameEvidence source input.event)
    (.errorf "record execution fill: lifecycle evidence differs from raw economic source event" [])
  validateJSONObject source.rawPayload "execution fill source payload"
  let createdAt := creationTime clock input.createdAt
  let transaction ← deref "Transaction" n.transaction
  let quantity ← deref "Quantity" n.quantity
  let price ← deref "Price" n.price
  let fill := newFill a order source n transaction quantity price createdAt
  wrapping "record execution fill: %w" [] fill.validate
  let cumulative := (sumFillQuantity a.fills).add fill.quantity
  failIf (cumulative.greaterThan order.quantity)
    (.errorf "record execution fill: cumulative quantity %s exceeds order quantity %s"
      [cumulative.toText, order.quantity.toText])
  let next := if cumulative.equal order.quantity then State.filled else .partiallyFilled
  let (binding, created) ← fillBinding a order input.externalOrderID createdAt
  let kind := if a.state = .routed then EventKind.fillAcknowledged else .fillRecorded
  let event ← wrapping "record execution fill: %w" [] (newEvent clock a.intent kind a.state next input.event createdAt)
  let event := { event.inContext a order with
    bindingID := some binding.id
    fillID := some fill.id
    cumulativeFillQuantity := some cumulative }
  wrapping "record execution fill: %w" [] event.validate
  pure { event.alone with binding := created, fill := some fill, normalization := some n }

def requestCancel (clock : Reading) (aggregate : Option Aggregate) (input : EventInput) (createdAt : Instant) :
    Outcome Transition := do
  let a ← admitting aggregate
    (fun a => (a.state == .working || a.state == .partiallyFilled) && a.order.isSome && a.binding.isSome)
    "request execution cancel: lifecycle must be bound and working or partially filled"
  let order ← deref "Order" a.order
  let binding ← deref "Binding" a.binding
  let event ← wrapping "request execution cancel: %w" []
    (newEvent clock a.intent .cancelRequested a.state a.state input createdAt)
  let event := { event.inContext a order with bindingID := some binding.id }
  wrapping "request execution cancel: %w" [] event.validate
  pure event.alone

def terminalState : EventKind → Option State
  | .orderCancelled => some .cancelled
  | .orderExpired => some .expired
  | .orderRejected => some .rejected
  | _ => none

def observeOrderTerminal (clock : Reading) (aggregate : Option Aggregate) (kind : EventKind) (input : EventInput)
    (createdAt : Instant) : Outcome Transition := do
  let a ← admitting aggregate (fun a => a.order.isSome)
    "observe terminal execution order: routed lifecycle is required"
  let order ← deref "Order" a.order
  match terminalState kind with
  | none => .error (.errorf "observe terminal execution order: invalid terminal event kind %q" [kind.text])
  | some next => do
      failIf (!validEventTransition kind .ordinary a.state next)
        (.errorf "observe terminal execution order: illegal transition from %q" [a.state.text])
      failIf ((a.state == .working || a.state == .partiallyFilled) && a.binding.isNone)
        (.errorf "observe terminal execution order: working lifecycle has no binding" [])
      let event ← wrapping "observe terminal execution order: %w" []
        (newEvent clock a.intent kind a.state next input createdAt)
      let event := { event.inContext a order with bindingID := a.binding.map OrderBinding.id }
      wrapping "observe terminal execution order: %w" [] event.validate
      pure event.alone

/-- The observation class that each kind of failure evidence must carry. -/
def checkFailureClass (kind : EventKind) (observationClass : ObservationClass) : Outcome Unit :=
  match kind with
  | .fillCorrectionObserved =>
      failIf (observationClass != .correction)
        (.errorf "fail execution reconciliation: correction event class is required" [])
  | .fillBustObserved =>
      failIf (observationClass != .bust) (.errorf "fail execution reconciliation: bust event class is required" [])
  | .unknownVenueState | .contradictoryVenueState =>
      failIf (observationClass.text != "" && observationClass != .ordinary)
        (.errorf "fail execution reconciliation: venue-state failure must use ordinary identity" [])
  | _ => .error (.errorf "fail execution reconciliation: unsupported event kind %q" [kind.text])

/-- As much of the context as the lifecycle has reached. -/
def Event.situated (event : Event) (a : Aggregate) : Event :=
  let event := match a.order with
    | none => { event with quantityDelta := a.allocatedQuantity }
    | some order => event.inContext a order
  { event with bindingID := a.binding.map OrderBinding.id }

def failReconciliation (clock : Reading) (aggregate : Option Aggregate) (kind : EventKind) (input : EventInput)
    (createdAt : Instant) : Outcome Transition := do
  let a ← admitting aggregate (fun a => a.state != .none && a.state != .failedReconciliation)
    "fail execution reconciliation: lifecycle cannot accept failure evidence"
  checkFailureClass kind input.observationClass
  let event ← wrapping "fail execution reconciliation: %w" []
    (newEvent clock a.intent kind a.state .failedReconciliation input createdAt)
  let event := event.situated a
  failIf ((kind == .fillCorrectionObserved || kind == .fillBustObserved) &&
      !event.originalFillID.any fun id => a.hasFill id event.originalSourceEventID)
    (.errorf "fail execution reconciliation: correction or bust must reference an existing fill" [])
  wrapping "fail execution reconciliation: %w" [] event.validate
  pure event.alone

end Augr.Lifecycle

import Augr.Lifecycle.Types

/-! The aggregate of one intent: which transition it accepts and what it becomes. -/

set_option autoImplicit false

namespace Augr.Lifecycle

open Foundation Ledger

def validEventTransition (kind : EventKind) (observationClass : ObservationClass) (prior next : State) : Bool :=
  if observationClass = .correction ∨ observationClass = .bust then
    (kind == .fillCorrectionObserved || kind == .fillBustObserved) &&
      prior != .none && prior != .failedReconciliation && next == .failedReconciliation
  else if observationClass ≠ .ordinary then false
  else match kind with
    | .intentProposed => prior == .none && next == .proposed
    | .intentAllocated => prior == .proposed && next == .allocated
    | .riskApproved => prior == .allocated && next == .riskApproved
    | .riskRejected => prior == .allocated && next == .riskRejected
    | .orderRouted => prior == .riskApproved && next == .routed
    | .orderWorking => prior == .routed && next == .working
    | .cancelRequested => (prior == .working || prior == .partiallyFilled) && next == prior
    | .fillAcknowledged => prior == .routed && (next == .partiallyFilled || next == .filled)
    | .fillRecorded =>
        (prior == .working || prior == .partiallyFilled) && (next == .partiallyFilled || next == .filled)
    | .orderCancelled => (prior == .routed || prior == .working || prior == .partiallyFilled) && next == .cancelled
    | .orderExpired => (prior == .routed || prior == .working || prior == .partiallyFilled) && next == .expired
    | .orderRejected => (prior == .routed || prior == .working || prior == .partiallyFilled) && next == .rejected
    | .unknownVenueState | .contradictoryVenueState =>
        prior != .none && prior != .failedReconciliation && next == .failedReconciliation
    | _ => false

def sideForDelta (value : Decimal) : Side := if value.isNegative then .sell else .buy

def sumFillQuantity (fills : List Fill) : Decimal :=
  fills.foldl (fun total fill => total.add fill.quantity) .zero

/-- A normalization that the order, the intent and the fill identity agree with. The
source event is read before anything is known about it. -/
def validateFillNormalization (intent : Intent) (order : Order) (fillID : Uuid) (n : EconomicNormalization) :
    Outcome Unit := do
  let source ← deref "SourceEvent" n.sourceEvent
  failIf (source.accountID != intent.accountID || n.account.map Account.id != some intent.accountID ||
      n.instrument.map Instrument.id != some intent.instrumentID ||
      n.venueContract.map VenueContract.id != some order.venueContractID || n.venue != order.venue ||
      n.executionOriginType != intent.originType || n.executionOriginID != intent.originID ||
      n.referenceType != "execution_fill" || n.referenceID != fillID.toText || n.transaction.isNone)
    (.errorf "record execution fill: normalization context does not match lifecycle" [])
  failIf (n.eventType != (if order.side = .sell then .fillSell else .fillBuy) ||
      !n.quantity.any (fun quantity => quantity.isPositive && validExactDecimal quantity false) ||
      !n.price.any (fun price => !price.isNegative && validExactDecimal price true))
    (.errorf "record execution fill: normalization fill mechanics do not match order" [])

namespace Transition

def childless (t : Transition) : Bool :=
  t.order.isNone && t.binding.isNone && t.fill.isNone && t.normalization.isNone

end Transition

namespace Aggregate

def hasFill (a : Aggregate) (id : Uuid) (sourceEventID : String) : Bool :=
  a.fills.any fun fill => fill.id == id && fill.sourceEventID == sourceEventID

/-- The account and origin of the intent, repeated on every event. -/
def sameContext (intent : Intent) (event : Event) : Bool :=
  event.intentID == intent.id && event.accountID == intent.accountID && event.environment == intent.environment &&
    event.originType == intent.originType && event.originID == intent.originID &&
    event.strategyVersionID == intent.strategyVersionID

def mismatch (text : String) : Fault := .errorf ("apply execution transition: " ++ text) []

def refusing {α : Type} (check : Outcome α) : Outcome α := wrapping "apply execution transition: %w" [] check

def checkPolicyContext (a : Aggregate) (event : Event) : Outcome Unit :=
  match a.order with
  | none =>
      failIf (event.kind != .orderRouted &&
          (event.orderID.isSome || event.policyKind.text != "" || event.policyVersion != ""))
        (mismatch "pre-route event carries order policy context")
  | some order =>
      failIf (event.kind != .orderRouted && (event.orderID != some order.id || event.policyKind != order.policyKind ||
          event.policyVersion != order.policyVersion))
        (mismatch "event order policy context mismatch")

def applyAllocation (a : Aggregate) (t : Transition) : Outcome Aggregate := do
  failIf (!t.childless) (mismatch "allocation cannot carry child facts")
  failIf (!t.event.quantityDelta.any fun quantity => validExactDecimal quantity false &&
      quantity.sign == a.intent.desiredQuantityDelta.sign &&
      !quantity.abs.greaterThan a.intent.desiredQuantityDelta.abs)
    (mismatch "invalid allocated quantity")
  pure { a with allocatedQuantity := t.event.quantityDelta }

def applyRiskDecision (a : Aggregate) (t : Transition) : Outcome Aggregate := do
  failIf (!t.childless) (mismatch "risk decision cannot carry child facts")
  failIf (!a.allocatedQuantity.any fun allocated => t.event.quantityDelta.any fun quantity => quantity.equal allocated)
    (mismatch "risk quantity does not match allocation")
  pure a

def routes (a : Aggregate) (event : Event) (order : Order) : Bool :=
  event.orderID == some order.id && order.intentID == a.intent.id && order.accountID == a.intent.accountID &&
    order.instrumentID == a.intent.instrumentID &&
    a.allocatedQuantity.any (fun allocated =>
      order.quantity.equal allocated.abs && order.side == sideForDelta allocated) &&
    event.policyKind == order.policyKind && event.policyVersion == order.policyVersion &&
    event.quoteSnapshotID == some order.routeQuoteSnapshotID

def applyRoute (a : Aggregate) (t : Transition) : Outcome Aggregate := do
  failIf (a.order.isSome || t.binding.isSome || t.fill.isSome || t.normalization.isSome ||
      !t.order.any (a.routes t.event))
    (mismatch "routed order does not match lifecycle")
  let order ← deref "Order" t.order
  refusing order.validate
  pure { a with order := some order }

def applyWorking (a : Aggregate) (t : Transition) : Outcome Aggregate := do
  failIf (a.binding.isSome || t.order.isSome || t.fill.isSome || t.normalization.isSome ||
      !a.order.any fun order => t.binding.any fun binding => t.event.bindingID == some binding.id &&
        binding.orderID == order.id && binding.accountID == a.intent.accountID && binding.venue == order.venue)
    (mismatch "order binding does not match lifecycle")
  let binding ← deref "Binding" t.binding
  refusing binding.validate
  pure { a with binding := some binding }

def applyCancelRequest (a : Aggregate) (t : Transition) : Outcome Aggregate := do
  failIf (!t.childless || !a.binding.any fun binding => t.event.bindingID == some binding.id)
    (mismatch "cancel request binding is invalid")
  pure a

def applyTerminal (a : Aggregate) (t : Transition) : Outcome Aggregate := do
  failIf (!t.childless) (mismatch "terminal observation cannot carry child facts")
  failIf ((a.state == .working || a.state == .partiallyFilled) &&
      !a.binding.any fun binding => t.event.bindingID == some binding.id)
    (mismatch "terminal observation binding is invalid")
  failIf (a.state == .routed && t.event.bindingID.isSome)
    (mismatch "pre-ack terminal observation cannot carry a binding")
  pure a

def owns (a : Aggregate) (order : Order) (event : Event) (fill : Fill) : Bool :=
  event.fillID == some fill.id && fill.intentID == a.intent.id && fill.orderID == order.id &&
    fill.accountID == a.intent.accountID && fill.instrumentID == a.intent.instrumentID &&
    fill.venueContractID == order.venueContractID

/-- The links from the fill to its normalization and to the event. Side, quantity, price
and effective time are not compared with the normalization, and neither is the source. -/
def linked (event : Event) (fill : Fill) (source : EconomicSourceEvent) (n : EconomicNormalization)
    (transaction : Transaction) : Bool :=
  fill.economicSourceEventID == source.id && fill.normalizationID == n.id &&
    fill.ledgerTransactionID == transaction.id && event.source == fill.source &&
    event.sourceNamespace == fill.sourceNamespace && event.sourceEventID == fill.sourceEventID &&
    event.sourceRevision == fill.sourceRevision && event.receivedAt.equal fill.receivedAt

/-- The binding after a fill: a new one for an immediate fill, else the one there is. An
immediate fill's binding is not compared with the account and the venue. -/
def bindFill (a : Aggregate) (order : Order) (t : Transition) : Outcome (Option OrderBinding) :=
  if t.event.kind = .fillAcknowledged then do
    failIf (a.state != .routed || a.binding.isSome ||
        !t.binding.any fun binding => t.event.bindingID == some binding.id && binding.orderID == order.id)
      (mismatch "immediate fill binding is invalid")
    let binding ← deref "Binding" t.binding
    refusing binding.validate
    pure (some binding)
  else do
    failIf (t.binding.isSome || !a.binding.any fun binding => t.event.bindingID == some binding.id)
      (mismatch "fill binding is invalid")
    pure a.binding

def applyFill (a : Aggregate) (t : Transition) : Outcome Aggregate := do
  failIf (t.normalization.isNone || t.order.isSome ||
      !a.order.any fun order => t.fill.any (a.owns order t.event))
    (mismatch "fill does not match lifecycle")
  let order ← deref "Order" a.order
  let fill ← deref "Fill" t.fill
  let n ← deref "Normalization" t.normalization
  refusing fill.validate
  refusing (validateFillNormalization a.intent order fill.id n)
  let source ← deref "SourceEvent" n.sourceEvent
  let transaction ← deref "Transaction" n.transaction
  failIf (!linked t.event fill source n transaction) (mismatch "fill source or economic links mismatch")
  let cumulative := (sumFillQuantity a.fills).add fill.quantity
  failIf (cumulative.greaterThan order.quantity ||
      !t.event.cumulativeFillQuantity.any (fun quantity => quantity.equal cumulative) ||
      (t.event.nextState == .filled) != cumulative.equal order.quantity)
    (mismatch "fill cumulative quantity is invalid")
  let binding ← a.bindFill order t
  pure { a with binding := binding, fills := a.fills ++ [fill] }

def applyRevision (a : Aggregate) (t : Transition) : Outcome Aggregate := do
  failIf (!t.childless || !t.event.originalFillID.any fun id => a.hasFill id t.event.originalSourceEventID)
    (mismatch "correction or bust does not identify an existing fill")
  pure a

def applyVenueFailure (a : Aggregate) (t : Transition) : Outcome Aggregate := do
  failIf (!t.childless) (mismatch "reconciliation failure cannot carry child facts")
  pure a

/-- The child facts of the transition, by the kind of its event. -/
def applyFacts (a : Aggregate) (t : Transition) : Outcome Aggregate :=
  match t.event.kind with
  | .intentAllocated => a.applyAllocation t
  | .riskApproved | .riskRejected => a.applyRiskDecision t
  | .orderRouted => a.applyRoute t
  | .orderWorking => a.applyWorking t
  | .cancelRequested => a.applyCancelRequest t
  | .orderCancelled | .orderExpired | .orderRejected => a.applyTerminal t
  | .fillAcknowledged | .fillRecorded => a.applyFill t
  | .fillCorrectionObserved | .fillBustObserved => a.applyRevision t
  | .unknownVenueState | .contradictoryVenueState => a.applyVenueFailure t
  | .intentProposed | .unrecognized _ => .ok a

def step (a : Aggregate) (t : Transition) : Outcome Aggregate := do
  refusing t.event.validate
  failIf (!sameContext a.intent t.event) (mismatch "event context does not match intent")
  a.checkPolicyContext t.event
  failIf (t.event.priorState != a.state)
    (.errorf "apply execution transition: stale prior state %q, current %q" [t.event.priorState.text, a.state.text])
  failIf (!validEventTransition t.event.kind t.event.observationClass t.event.priorState t.event.nextState)
    (.errorf "apply execution transition: illegal %s transition %s -> %s"
      [t.event.kind.text, t.event.priorState.text, t.event.nextState.text])
  let next ← a.applyFacts t
  pure { next with state := t.event.nextState, events := next.events ++ [t.event] }

end Aggregate

def applyTransition (aggregate : Option Aggregate) (transition : Option Transition) : Outcome Aggregate :=
  match aggregate, transition with
  | some a, some t => a.step t
  | _, _ => .error (.errorf "apply execution transition: aggregate and transition are required" [])

/-- What the replay loop carries from one transition to the next. -/
structure Cursor where
  aggregate : Aggregate
  seen : List Uuid
  lastSequence : Int
  index : Nat

/-- Sequences must increase as soon as one of them is set. -/
def Cursor.advance (c : Cursor) (t : Transition) : Outcome Cursor := do
  failIf (c.seen.contains t.event.id)
    (.errorf "replay execution lifecycle: duplicate event %s" [t.event.id.toText])
  let sequenced : Bool := 0 < t.event.ingestSequence || 0 < c.lastSequence
  failIf (sequenced && t.event.ingestSequence ≤ c.lastSequence)
    (.errorf "replay execution lifecycle: event ingest sequence is not increasing" [])
  let next ← wrapping "replay execution lifecycle event %d: %w" [Text.itoa c.index]
    (applyTransition (some c.aggregate) (some t))
  pure
    { aggregate := next
      seen := t.event.id :: c.seen
      lastSequence := if sequenced then t.event.ingestSequence else c.lastSequence
      index := c.index + 1 }

def opens (intent : Intent) (t : Transition) : Bool :=
  t.childless && t.event.kind == .intentProposed && t.event.observationClass == .ordinary &&
    t.event.priorState == .none && t.event.nextState == .proposed && Aggregate.sameContext intent t.event &&
    t.event.quantityDelta.any (fun quantity => quantity.equal intent.desiredQuantityDelta) &&
    t.event.quoteSnapshotID == some intent.decisionQuoteSnapshotID && t.event.orderID.isNone &&
    t.event.bindingID.isNone && t.event.fillID.isNone && t.event.policyKind.text == "" && t.event.policyVersion == ""

def Aggregate.opened (intent : Intent) (event : Event) : Aggregate :=
  { intent := intent
    state := .proposed
    allocatedQuantity := none
    order := none
    binding := none
    fills := []
    events := [event] }

def replay (accountID : Uuid) (intent : Intent) (transitions : List Transition) : Outcome Aggregate := do
  failIf (accountID == Uuid.nil || intent.accountID != accountID)
    (.errorf "replay execution lifecycle: account identity mismatch" [])
  wrapping "replay execution lifecycle: %w" [] intent.validate
  match transitions with
  | [] => .error (.errorf "replay execution lifecycle: proposed event is required" [])
  | initial :: rest => do
      failIf (!opens intent initial) (.errorf "replay execution lifecycle: invalid proposed event" [])
      wrapping "replay execution lifecycle: %w" [] initial.event.validate
      let final ← rest.foldlM Cursor.advance
        ⟨.opened intent initial.event, [initial.event.id], initial.event.ingestSequence, 1⟩
      pure final.aggregate

end Augr.Lifecycle

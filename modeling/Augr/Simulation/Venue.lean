import Augr.Simulation.Fills

/-! The simulation venue: one point-in-time observation applied to one routed lifecycle. -/

set_option autoImplicit false

namespace Augr.Simulation

open Foundation Lifecycle MarketData

inductive VenueErrorCode where
  | invalidRequest
  | policyMismatch
  | referenceMismatch
  | unsupportedInstruction
  | quoteNotExecutable
  deriving DecidableEq, Repr

def VenueErrorCode.text : VenueErrorCode → String
  | .invalidRequest => "invalid_request"
  | .policyMismatch => "policy_mismatch"
  | .referenceMismatch => "reference_mismatch"
  | .unsupportedInstruction => "unsupported_instruction"
  | .quoteNotExecutable => "quote_not_executable"

def venueFailure (code : VenueErrorCode) (detail : String) : Fault := .errorf (code.text ++ ": " ++ detail) []

/-- A failed check is kept as the cause behind the code. -/
def refused {α : Type} (code : VenueErrorCode) (detail : String) (check : Outcome α) : Outcome α :=
  wrapping (code.text ++ ": " ++ detail ++ ": %w") [] check

inductive Decision where
  | noop
  | waitingLatency
  | resting
  | partiallyFilled
  | filled
  | cancelled
  | expired
  | rejected
  deriving DecidableEq, Repr

structure EvaluationRequest where
  account : Account
  instrument : Instrument
  venueContract : VenueContract
  aggregate : Option Aggregate
  snapshot : QuoteSnapshot
  evaluatedAt : Instant

/-- The transitions have all been accepted by the lifecycle. -/
structure Result where
  decision : Decision
  aggregate : Aggregate
  transitions : List Transition
  fills : List FillEffect

structure Venue where
  policy : Policy

/-- The clock readings of one evaluation; those of a fill are found by the fills before it. -/
structure Ticks where
  fill : Nat → FillClocks
  observation : Reading

/-- Account, instrument, contract and order name each other and share their mechanics. -/
def EvaluationRequest.mismatched (request : EvaluationRequest) (intent : Intent) (order : Order) : Bool :=
  let account := request.account
  let inst := request.instrument
  let contract := request.venueContract
  intent.accountID != account.id || intent.environment != account.environment || intent.instrumentID != inst.id ||
    order.accountID != account.id || order.instrumentID != inst.id || order.venueContractID != contract.id ||
    order.venue != contract.venue || contract.instrumentID != inst.id || inst.primaryVenue != contract.venue ||
    account.baseCurrency != inst.currency || account.baseCurrency != contract.currency ||
    !inst.tickSize.equal contract.tickSize || !inst.lotSize.equal contract.lotSize ||
    !inst.multiplier.equal contract.multiplier

/-- The message of the fault says that the route time is in no session. -/
def outsideSessions : Fault → Bool
  | .errorf format _ => format == outsideFormat
  | _ => false

structure AcceptedRequest where
  aggregate : Aggregate
  order : Order
  asset : AssetPolicy
  session : Option SessionWindow

def Venue.validateRequest (venue : Venue) (request : EvaluationRequest) : Outcome AcceptedRequest := do
  let missing := venueFailure .invalidRequest "routed lifecycle and venue are required"
  let a ← required missing request.aggregate
  let order ← required missing a.order
  let evaluatedAt := request.evaluatedAt
  failIf (evaluatedAt.isZero || !evaluatedAt.utc || !evaluatedAt.equal evaluatedAt.truncate ||
      evaluatedAt.before order.routedAt)
    (venueFailure .invalidRequest "evaluation time is invalid")
  refused .referenceMismatch "account is invalid" request.account.validate
  failIf (request.account.status != .active) (venueFailure .referenceMismatch "account is not active")
  refused .referenceMismatch "instrument is invalid" request.instrument.validate
  refused .referenceMismatch "venue contract is invalid" request.venueContract.validate
  refused .invalidRequest "execution intent is invalid" a.intent.validate
  refused .invalidRequest "execution order is invalid" order.validate
  failIf (request.mismatched a.intent order)
    (venueFailure .referenceMismatch "account, instrument, contract, venue, currency, or mechanics mismatch")
  failIf (order.policyKind != .simulation || order.policyVersion != venue.policy.version)
    (venueFailure .policyMismatch "order policy does not match simulation venue")
  let unsupported := venueFailure .unsupportedInstruction "asset, order type, or time in force is unsupported"
  let asset ← required unsupported (venue.policy.assetPolicy request.instrument.assetClass)
  failIf (!asset.orderTypes.contains order.orderType || !asset.timeInForce.contains order.timeInForce) unsupported
  match venue.policy.routeSession request.instrument.assetClass order.routedAt with
  | .ok session => pure ⟨a, order, asset, session⟩
  | .error fault =>
      if asset.calendar.kind = .explicitSessions && outsideSessions fault then pure ⟨a, order, asset, none⟩
      else refused .unsupportedInstruction "route session cannot be resolved" (.error fault)

def simulationLevelCrosses (order : Order) (price : Decimal) : Bool :=
  if order.orderType = .market then true
  else if order.orderType ≠ .limit then false
  else match order.limitPrice with
    | none => false
    | some limit => if order.side = .buy then !price.greaterThan limit else !price.lessThan limit

def floorSimulationLot (value lot : Decimal) : Decimal :=
  if !value.isPositive || !lot.isPositive then .zero else (value.div lot).floor.mul lot

def simulationAggregateHasSourceEvent (a : Aggregate) (sourceEventID : String) : Bool :=
  a.fills.any fun fill => fill.source == "simulation" && fill.sourceEventID == sourceEventID

def depthSideFor (side : Side) : DepthSide := if side = .sell then .bid else .ask

/-- What one level offers to the order: nothing when it is on the other side, does not
cross, was used before, or is too small. -/
def eligibleLevel (a : Aggregate) (order : Order) (snapshot : QuoteSnapshot) (asset : AssetPolicy) (lotSize : Decimal)
    (level : DepthLevel) : Option EligibleLevel :=
  if level.side != depthSideFor order.side || !simulationLevelCrosses order level.price then none
  else if simulationAggregateHasSourceEvent a
      (simulationFillSourceEventID order.id.toText snapshot.id.toText level.side level.level) then none
  else
    let capacity := floorSimulationLot (level.size.mul asset.maxDepthParticipation) lotSize
    if !capacity.isPositive then none else some ⟨level, capacity⟩

def eligibleLevels (a : Aggregate) (order : Order) (snapshot : QuoteSnapshot) (asset : AssetPolicy) (lotSize : Decimal) :
    List EligibleLevel :=
  snapshot.depth.filterMap (eligibleLevel a order snapshot asset lotSize)

def terminalSimulationState : State → Bool
  | .filled | .cancelled | .expired | .rejected | .riskRejected | .failedReconciliation => true
  | _ => false

def simulationTimeInSession (calendar : CalendarPolicy) (evaluatedAt : Instant) : Bool :=
  calendar.sessions.any fun session => session.holds evaluatedAt

/-- Acknowledge the order when that has not happened yet. -/
def Venue.ensureWorking (venue : Venue) (clock : Reading) (result : Result) (request : EvaluationRequest) (order : Order)
    (session : Option SessionWindow) (decision : Decision) (reason : String) : Outcome Result := do
  if result.aggregate.state ≠ .routed then pure { result with decision := decision }
  else do
    let snapshot := request.snapshot
    let sourceAt := simulationSnapshotSourceAt snapshot
    let evidence := marshalSimulationObservationEvidence venue.policy request.account order (some snapshot) "working" reason
      request.evaluatedAt sourceAt snapshot.receivedAt session
    let path ← simulationSourceNamespace request.account "order"
    let eventID := simulationObservationSourceEventID order.id.toText snapshot.id.toText "working" reason
    let transition ← wrapping "build simulation acknowledgement: %w" []
      (acknowledge clock (some result.aggregate) (simulationExternalOrderID order.id.toText)
        (simulationEvent path eventID snapshot.sourceRevision sourceAt snapshot.receivedAt reason evidence)
        request.evaluatedAt)
    let next ← wrapping "apply simulation acknowledgement: %w" []
      (applyTransition (some result.aggregate) (some transition))
    pure { result with aggregate := next, transitions := result.transitions ++ [transition], decision := decision }

def terminalReceivedAt (request : EvaluationRequest) (order : Order) (snapshot : Option QuoteSnapshot) : Instant :=
  match snapshot with
  | some s => if !s.receivedAt.isZero && s.receivedAt.after order.routedAt then s.receivedAt else request.evaluatedAt
  | none => request.evaluatedAt

def Venue.applyTerminal (venue : Venue) (clock : Reading) (result : Result) (request : EvaluationRequest) (order : Order)
    (kind : EventKind) (decision : Decision) (reason : String) (sourceAt : Instant) (snapshot : Option QuoteSnapshot)
    (session : Option SessionWindow) : Outcome Result := do
  let observed := terminalReceivedAt request order snapshot
  let receivedAt := if observed.before sourceAt then request.evaluatedAt else observed
  let evidence := marshalSimulationObservationEvidence venue.policy request.account order snapshot kind.text reason
    request.evaluatedAt sourceAt receivedAt session
  let path ← simulationSourceNamespace request.account "order"
  let snapshotID := (snapshot.map fun s => s.id.toText).getD ""
  let revision := (snapshot.map QuoteSnapshot.sourceRevision).getD ""
  let eventID := simulationObservationSourceEventID order.id.toText snapshotID kind.text reason
  let transition ← wrapping "build simulation terminal transition: %w" []
    (observeOrderTerminal clock (some result.aggregate) kind
      (simulationEvent path eventID revision sourceAt receivedAt reason evidence) request.evaluatedAt)
  let next ← wrapping "apply simulation terminal transition: %w" []
    (applyTransition (some result.aggregate) (some transition))
  pure { result with aggregate := next, transitions := result.transitions ++ [transition], decision := decision }

/-- The loop over the levels, with the quantity still open. -/
structure Filling where
  aggregate : Aggregate
  remaining : Decimal
  transitions : List Transition
  fills : List FillEffect

/-- All that a level offers, or what is still open when that is less. -/
def Filling.takes (sofar : Filling) (candidate : EligibleLevel) : Decimal :=
  if candidate.capacity.greaterThan sofar.remaining then sofar.remaining else candidate.capacity

/-- Once nothing remains the loop has ended. -/
def fillLevel (ticks : Ticks) (input : SimulationFillInput) (sofar : Filling) (candidate : EligibleLevel) :
    Outcome Filling :=
  if sofar.remaining.isZero then .ok sofar
  else do
    let quantity := sofar.takes candidate
    let (transition, effect) ←
      buildSimulationFill (ticks.fill sofar.aggregate.fills.length) input sofar.aggregate candidate quantity
    let next ← wrapping "apply simulation fill transition: %w" []
      (applyTransition (some sofar.aggregate) (some transition))
    pure ⟨next, sofar.remaining.sub quantity, sofar.transitions ++ [transition], sofar.fills ++ [effect]⟩

def totalCapacity (levels : List EligibleLevel) : Decimal :=
  levels.foldl (fun total level => total.add level.capacity) .zero

def Result.untouched (a : Aggregate) : Result := ⟨.noop, a, [], []⟩

def EvaluationRequest.fillInput (request : EvaluationRequest) (venue : Venue) (accepted : AcceptedRequest)
    (assessment : QuoteAssessment) : SimulationFillInput where
  policy := venue.policy
  asset := accepted.asset
  account := request.account
  instrument := request.instrument
  venueContract := request.venueContract
  snapshot := request.snapshot
  assessment := assessment
  evaluatedAt := request.evaluatedAt
  routeSession := accepted.session

def AcceptedRequest.remaining (accepted : AcceptedRequest) : Decimal :=
  accepted.order.quantity.sub (sumFillQuantity accepted.aggregate.fills)

def AcceptedRequest.levels (accepted : AcceptedRequest) (request : EvaluationRequest) : List EligibleLevel :=
  eligibleLevels accepted.aggregate accepted.order request.snapshot accepted.asset request.venueContract.lotSize

/-- The observation meets the depth: take what it offers, then settle the rest. -/
def Venue.execute (venue : Venue) (ticks : Ticks) (request : EvaluationRequest) (accepted : AcceptedRequest)
    (assessment : QuoteAssessment) : Outcome Result := do
  let order := accepted.order
  let snapshot := request.snapshot
  let levels := accepted.levels request
  if order.timeInForce = .fok && (totalCapacity levels).lessThan accepted.remaining then
    venue.applyTerminal ticks.observation (.untouched accepted.aggregate) request order .orderRejected .rejected
      "fok_insufficient_depth" (simulationSnapshotSourceAt snapshot) (some snapshot) accepted.session
  else do
    let filled ← levels.foldlM (fillLevel ticks (request.fillInput venue accepted assessment))
      ⟨accepted.aggregate, accepted.remaining, [], []⟩
    let result : Result := ⟨.noop, filled.aggregate, filled.transitions, filled.fills⟩
    if filled.aggregate.state = .filled then pure { result with decision := .filled }
    else if order.timeInForce = .ioc then
      venue.applyTerminal ticks.observation result request order .orderCancelled .cancelled "ioc_remainder_cancelled"
        (simulationSnapshotSourceAt snapshot) (some snapshot) accepted.session
    else if !filled.fills.isEmpty then pure { result with decision := .partiallyFilled }
    else venue.ensureWorking ticks.observation result request order accepted.session .resting "no_marketable_depth"

/-- The quote is assessed, and the fixed latency must have passed before it. -/
def Venue.observe (venue : Venue) (ticks : Ticks) (request : EvaluationRequest) (accepted : AcceptedRequest) :
    Outcome Result := do
  let order := accepted.order
  let snapshot := request.snapshot
  let untouched := Result.untouched accepted.aggregate
  let assessment ← refused .quoteNotExecutable "quote assessment failed"
    (snapshot.assessForExecution request.evaluatedAt accepted.asset.quoteRequirements request.instrument
      request.venueContract)
  failIf (assessment.snapshotID != snapshot.id || !assessment.evaluatedAt.equal request.evaluatedAt)
    (venueFailure .quoteNotExecutable "quote assessment identity mismatch")
  let latencyEligibleAt := order.routedAt.add accepted.asset.fixedLatency
  if !snapshot.availableAt.any (fun availableAt => !availableAt.before latencyEligibleAt) then
    if order.timeInForce = .ioc || order.timeInForce = .fok then pure { untouched with decision := .waitingLatency }
    else
      venue.ensureWorking ticks.observation untouched request order accepted.session .waitingLatency
        "fixed_latency_pending"
  else venue.execute ticks request accepted assessment

/-- What the calendar settles before the quote is looked at. -/
def Venue.attend (venue : Venue) (ticks : Ticks) (request : EvaluationRequest) (accepted : AcceptedRequest) :
    Outcome Result :=
  let order := accepted.order
  let calendar := accepted.asset.calendar
  let untouched := Result.untouched accepted.aggregate
  if accepted.session.isNone && calendar.kind = .explicitSessions then
    venue.applyTerminal ticks.observation untouched request order .orderRejected .rejected "route_outside_session"
      order.routedAt none none
  else match accepted.session.filter fun s => order.timeInForce = .day && !request.evaluatedAt.before s.closeAt with
    | some s =>
        venue.applyTerminal ticks.observation untouched request order .orderExpired .expired "day_session_closed" s.closeAt
          (some request.snapshot) (some s)
    | none =>
        if calendar.kind = .explicitSessions && !simulationTimeInSession calendar request.evaluatedAt &&
            order.timeInForce = .gtc then
          venue.ensureWorking ticks.observation untouched request order accepted.session .resting "outside_current_session"
        else venue.observe ticks request accepted

def Venue.evaluate (venue : Venue) (ticks : Ticks) (request : EvaluationRequest) : Outcome Result := do
  let accepted ← venue.validateRequest request
  if terminalSimulationState accepted.aggregate.state then pure (.untouched accepted.aggregate)
  else venue.attend ticks request accepted

end Augr.Simulation

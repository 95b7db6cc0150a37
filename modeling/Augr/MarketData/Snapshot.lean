import Augr.Instrument

/-! Quote snapshots and what an execution boundary asks of one. -/

set_option autoImplicit false

namespace Augr.MarketData

open Foundation Text

def maxDepthLevelsPerSide : Nat := 1000

inductive DepthSide where
  | bid
  | ask
  | unrecognized (text : String)
  deriving DecidableEq, Repr

def DepthSide.text : DepthSide → String
  | .bid => "bid"
  | .ask => "ask"
  | .unrecognized text => text

structure DepthLevel where
  side : DepthSide
  level : Int
  (price size : Decimal)
  deriving DecidableEq

/-- Absent values stay apart from values that are zero. -/
structure QuoteSnapshot where
  id : Uuid
  ingestSequence : Int
  instrumentID : Uuid
  venueContractID : Option Uuid
  (provider venue source observationNamespace observationID sourceRevision : String)
  sourceSequence : Option Int
  exchangeAt : Option Instant
  receivedAt : Instant
  availableAt : Option Instant
  (bid bidSize ask askSize last mark : Option Decimal)
  (marketStatus sessionStatus : String)
  depth : List DepthLevel
  metadata : RawMessage
  createdAt : Instant
  deriving DecidableEq

structure QuoteRequirements where
  (requireSource requireVenueContract requireBid requireAsk requireBidDepth requireAskDepth : Bool)
  (requireMarketStatus requireSessionStatus : Bool)
  (allowedMarketStatuses allowedSessionStatuses : List String)
  maxAge : Duration

inductive AssessmentCode where
  | missingSource
  | missingVenueContract
  | missingAvailability
  | missingBid
  | missingAsk
  | missingExchangeTime
  | futureObservation
  | staleQuote
  | missingBidDepth
  | missingAskDepth
  | missingMarketStatus
  | missingSessionStatus
  | marketNotExecutable
  | sessionNotExecutable
  | instrumentMismatch
  | instrumentNotExecutable
  | venueContractMismatch
  | invalidPriceTick
  | invalidLotSize
  deriving DecidableEq, Repr

def AssessmentCode.text : AssessmentCode → String
  | .missingSource => "missing_source"
  | .missingVenueContract => "missing_venue_contract"
  | .missingAvailability => "missing_availability_time"
  | .missingBid => "missing_bid"
  | .missingAsk => "missing_ask"
  | .missingExchangeTime => "missing_exchange_time"
  | .futureObservation => "future_observation"
  | .staleQuote => "stale_quote"
  | .missingBidDepth => "missing_bid_depth"
  | .missingAskDepth => "missing_ask_depth"
  | .missingMarketStatus => "missing_market_status"
  | .missingSessionStatus => "missing_session_status"
  | .marketNotExecutable => "market_not_executable"
  | .sessionNotExecutable => "session_not_executable"
  | .instrumentMismatch => "instrument_mismatch"
  | .instrumentNotExecutable => "instrument_not_executable"
  | .venueContractMismatch => "venue_contract_mismatch"
  | .invalidPriceTick => "invalid_price_tick"
  | .invalidLotSize => "invalid_lot_size"

/-- The code comes first, then the detail with its operands. -/
def assessmentFailure (code : AssessmentCode) (detail : String) (operands : List String) : Fault :=
  .errorf (code.text ++ ": " ++ detail) operands

/-- A reference check that failed is reported as an assessment with the cause as its detail. -/
def assessing {α : Type} (code : AssessmentCode) (detail : String) (check : Outcome α) : Outcome α :=
  wrapping (code.text ++ ": " ++ detail) [] check

structure QuoteAssessment where
  snapshotID : Uuid
  venueContractID : Option Uuid
  evaluatedAt : Instant
  exchangeAge : Option Duration
  (receiveAge availabilityAge : Duration)
  transportLatency : Option Duration
  validationLatency : Duration
  spread : Option Decimal

def isNormalizedLowerOptional (value : String) : Bool := value == "" || value == toLower (trimSpace value)

def validateRequiredTimestamp (label : String) (value : Instant) : Outcome Unit :=
  failIf (!value.isCanonical)
    (.errorf "quote snapshot %s time must use normalized UTC microsecond precision" [label])

def validateOptionalTimestamp (label : String) : Option Instant → Outcome Unit
  | none => .ok ()
  | some value => validateRequiredTimestamp label value

def validateOptionalDecimal (label : String) : Option Decimal → Outcome Unit
  | none => .ok ()
  | some value => do
      failIf value.isNegative (.errorf "quote snapshot %s cannot be negative" [label])
      failIf (!hasDecimalScaleAtMost value 12)
        (.errorf "quote snapshot %s supports at most 12 decimal places" [label])
      failIf (26 < value.numDigits + value.exponent)
        (.errorf "quote snapshot %s exceeds exact decimal magnitude" [label])

/-- The loop over the depth: bids so far and asks so far. -/
def splitDepth : List DepthLevel → List DepthLevel → List DepthLevel → Outcome (List DepthLevel × List DepthLevel)
  | bids, asks, [] => .ok (bids, asks)
  | bids, asks, level :: rest => do
      failIf (level.side != .bid && level.side != .ask)
        (.errorf "quote snapshot depth side %q is invalid" [level.side.text])
      -- an ask was seen exactly when one was kept
      failIf (level.side == .bid && !asks.isEmpty) (.errorf "quote snapshot bid depth cannot follow ask depth" [])
      validateOptionalDecimal "depth price" (some level.price)
      validateOptionalDecimal "depth size" (some level.size)
      let sideLevels := if level.side = .ask then asks else bids
      failIf (level.level != sideLevels.length)
        (.errorf "quote snapshot %s depth indexes must be contiguous from zero" [level.side.text])
      if level.side = .ask then splitDepth bids (asks ++ [level]) rest
      else splitDepth (bids ++ [level]) asks rest

/-- Every level is compared with the one after it. -/
def orderedBy (ahead : Decimal → Decimal → Bool) : List DepthLevel → Bool
  | first :: second :: rest => ahead first.price second.price && orderedBy ahead (second :: rest)
  | _ => true

namespace QuoteSnapshot

def validateDepth (s : QuoteSnapshot) : Outcome Unit := do
  let (bids, asks) ← splitDepth [] [] s.depth
  failIf (maxDepthLevelsPerSide < bids.length || maxDepthLevelsPerSide < asks.length)
    (.errorf "quote snapshot depth exceeds %d levels per side" [itoa maxDepthLevelsPerSide])
  failIf (!orderedBy Decimal.greaterThan bids) (.errorf "quote snapshot bid depth must strictly descend" [])
  failIf (!orderedBy Decimal.lessThan asks) (.errorf "quote snapshot ask depth must strictly ascend" [])
  failIf (bids.head?.any fun top => asks.head?.any fun other => top.price.greaterThan other.price)
    (.errorf "quote snapshot depth bid cannot exceed depth ask" [])
  failIf (bids.head?.any fun top => s.bid.any fun bid => !top.price.equal bid)
    (.errorf "quote snapshot bid depth top must equal bid" [])
  failIf (bids.head?.any fun top => s.bidSize.any fun size => !top.size.equal size)
    (.errorf "quote snapshot bid depth top size must equal bid size" [])
  failIf (asks.head?.any fun top => s.ask.any fun ask => !top.price.equal ask)
    (.errorf "quote snapshot ask depth top must equal ask" [])
  failIf (asks.head?.any fun top => s.askSize.any fun size => !top.size.equal size)
    (.errorf "quote snapshot ask depth top size must equal ask size" [])

def validate (s : QuoteSnapshot) : Outcome Unit := do
  failIf (s.id == Uuid.nil || s.instrumentID == Uuid.nil)
    (.errorf "quote snapshot and instrument IDs are required" [])
  failIf (s.ingestSequence < 0) (.errorf "quote snapshot ingest sequence cannot be negative" [])
  failIf (s.venueContractID == some Uuid.nil) (.errorf "quote snapshot venue contract ID cannot be nil" [])
  failIf (!isNormalizedLower s.provider || !isNormalizedLower s.venue)
    (.errorf "quote snapshot provider and venue must be non-empty normalized lowercase values" [])
  failIf (s.source != trimSpace s.source) (.errorf "quote snapshot source must be normalized" [])
  failIf (!isNormalizedRequired s.observationNamespace || !isNormalizedRequired s.observationID)
    (.errorf "quote snapshot observation namespace and ID must be non-empty normalized values" [])
  failIf (s.sourceRevision != trimSpace s.sourceRevision)
    (.errorf "quote snapshot source revision must be normalized" [])
  failIf (s.sourceSequence.any fun sequence => sequence < 0)
    (.errorf "quote snapshot source sequence cannot be negative" [])
  validateRequiredTimestamp "receive" s.receivedAt
  validateRequiredTimestamp "creation" s.createdAt
  validateOptionalTimestamp "exchange" s.exchangeAt
  validateOptionalTimestamp "availability" s.availableAt
  failIf (s.exchangeAt.any fun exchangeAt => exchangeAt.after s.receivedAt)
    (.errorf "quote snapshot exchange time cannot be after receive time" [])
  failIf (s.availableAt.any fun availableAt => availableAt.before s.receivedAt)
    (.errorf "quote snapshot availability time cannot be before receive time" [])
  -- The program ranges over a map here; which value is reported first is not fixed.
  forEach (fun (label, value) => validateOptionalDecimal label value)
    [("bid", s.bid), ("bid size", s.bidSize), ("ask", s.ask), ("ask size", s.askSize), ("last", s.last),
      ("mark", s.mark)]
  failIf (s.bidSize.isSome && s.bid.isNone) (.errorf "quote snapshot bid size requires bid" [])
  failIf (s.askSize.isSome && s.ask.isNone) (.errorf "quote snapshot ask size requires ask" [])
  failIf (s.bid.any fun bid => s.ask.any fun ask => bid.greaterThan ask)
    (.errorf "quote snapshot bid cannot exceed ask" [])
  failIf (!isNormalizedLowerOptional s.marketStatus || !isNormalizedLowerOptional s.sessionStatus)
    (.errorf "quote snapshot market and session statuses must be normalized lowercase values" [])
  s.validateDepth
  let _ ← normalizeJSONObject s.metadata "quote snapshot metadata"

def hasDepthSide (s : QuoteSnapshot) (side : DepthSide) : Bool := s.depth.any fun level => level.side == side

end QuoteSnapshot

def normalizeAllowedStatuses (label : String) (values : List String) : Outcome (List String) :=
  values.mapM fun value => do
    let normalized := toLower (trimSpace value)
    failIf (normalized == "")
      (.errorf "quote assessment allowed %s statuses cannot contain an empty value" [label])
    pure normalized

/-- As nanoseconds, where the source prints units. -/
def durationText (value : Duration) : String := toString value ++ "ns"

namespace QuoteSnapshot

def assess (s : QuoteSnapshot) (asOf : Instant) (requirements : QuoteRequirements) : Outcome QuoteAssessment := do
  wrapping "assess quote snapshot: %w" [] s.validate
  let evaluatedAt := asOf.normalize
  validateRequiredTimestamp "assessment" evaluatedAt
  failIf (requirements.maxAge < 0) (.errorf "quote assessment max age cannot be negative" [])
  let allowedMarket ← normalizeAllowedStatuses "market" requirements.allowedMarketStatuses
  let allowedSession ← normalizeAllowedStatuses "session" requirements.allowedSessionStatuses
  failIf s.availableAt.isNone
    (assessmentFailure .missingAvailability "observation has no decision-availability time" [])
  let availableAt ← deref "AvailableAt" s.availableAt
  failIf (availableAt.after evaluatedAt)
    (assessmentFailure .futureObservation "observation was not available at the requested time" [])
  failIf (requirements.requireSource && s.source == "") (assessmentFailure .missingSource "source is required" [])
  failIf (requirements.requireVenueContract && s.venueContractID.isNone)
    (assessmentFailure .missingVenueContract "dated venue mechanics are required" [])
  failIf (requirements.requireBid && s.bid.isNone) (assessmentFailure .missingBid "bid is required" [])
  failIf (requirements.requireAsk && s.ask.isNone) (assessmentFailure .missingAsk "ask is required" [])
  failIf (requirements.requireBidDepth && !s.hasDepthSide .bid)
    (assessmentFailure .missingBidDepth "bid depth is required" [])
  failIf (requirements.requireAskDepth && !s.hasDepthSide .ask)
    (assessmentFailure .missingAskDepth "ask depth is required" [])
  failIf ((requirements.requireMarketStatus || !allowedMarket.isEmpty) && s.marketStatus == "")
    (assessmentFailure .missingMarketStatus "market status is required" [])
  failIf (!allowedMarket.isEmpty && !allowedMarket.contains s.marketStatus)
    (assessmentFailure .marketNotExecutable "market status is not allowed" [])
  failIf ((requirements.requireSessionStatus || !allowedSession.isEmpty) && s.sessionStatus == "")
    (assessmentFailure .missingSessionStatus "session status is required" [])
  failIf (!allowedSession.isEmpty && !allowedSession.contains s.sessionStatus)
    (assessmentFailure .sessionNotExecutable "session status is not allowed" [])
  let exchangeAge := s.exchangeAt.map evaluatedAt.sub
  failIf (0 < requirements.maxAge && exchangeAge.isNone)
    (assessmentFailure .missingExchangeTime "exchange time is required to calculate quote age" [])
  failIf (0 < requirements.maxAge && exchangeAge.any fun age => requirements.maxAge < age)
    (assessmentFailure .staleQuote "exchange age %s exceeds %s"
      [(exchangeAge.map durationText).getD "", durationText requirements.maxAge])
  pure
    { snapshotID := s.id
      venueContractID := s.venueContractID
      evaluatedAt := evaluatedAt
      exchangeAge := exchangeAge
      receiveAge := evaluatedAt.sub s.receivedAt
      availabilityAge := evaluatedAt.sub availableAt
      transportLatency := s.exchangeAt.map s.receivedAt.sub
      validationLatency := availableAt.sub s.receivedAt
      spread := s.ask.bind fun ask => s.bid.map ask.sub }

def validateInstrumentEligibility (s : QuoteSnapshot) (reference : Instrument) (asOf : Instant) : Outcome Unit := do
  wrapping "validate quote snapshot instrument eligibility: %w" [] s.validate
  assessing .instrumentNotExecutable "instrument reference is invalid: %v" reference.validate
  failIf (reference.id != s.instrumentID)
    (assessmentFailure .instrumentMismatch "instrument reference does not match the observation" [])
  failIf (reference.status != .active)
    (assessmentFailure .instrumentNotExecutable "instrument status %q is not active" [reference.status.text])
  let evaluatedAt := asOf.normalize
  validateRequiredTimestamp "instrument eligibility" evaluatedAt
  failIf (reference.expiration.any fun expiration => !evaluatedAt.before expiration)
    (assessmentFailure .instrumentNotExecutable "instrument is expired at the requested time" [])

end QuoteSnapshot

/-- The contract has been validated, so the increment is not zero. -/
def isExactMultiple (value increment : Decimal) : Bool := (value.mod increment).isZero

def venueContractEffectiveAt (contract : VenueContract) (moment : Instant) : Bool :=
  !moment.before contract.validFrom && !contract.validTo.any fun validTo => !moment.before validTo

namespace QuoteSnapshot

def validateIncrement (code : AssessmentCode) (increment : String) (step : Decimal) (label : String)
    (value : Option Decimal) : Outcome Unit :=
  failIf (value.any fun value => !isExactMultiple value step)
    (assessmentFailure code ("%s %s is not an exact multiple of " ++ increment ++ " %s")
      [label, (value.map Decimal.toText).getD "", step.toText])

def validateLevel (contract : VenueContract) (level : DepthLevel) : Outcome Unit := do
  failIf (!isExactMultiple level.price contract.tickSize)
    (assessmentFailure .invalidPriceTick "%s depth level %d price %s is not an exact multiple of tick size %s"
      [level.side.text, toString level.level, level.price.toText, contract.tickSize.toText])
  failIf (!isExactMultiple level.size contract.lotSize)
    (assessmentFailure .invalidLotSize "%s depth level %d size %s is not an exact multiple of lot size %s"
      [level.side.text, toString level.level, level.size.toText, contract.lotSize.toText])

/-- Last and mark are evidence and are not held to the tick. -/
def validateAgainstVenueContract (s : QuoteSnapshot) (contract : VenueContract) : Outcome Unit := do
  wrapping "validate quote snapshot venue contract: %w" [] s.validate
  failIf s.venueContractID.isNone
    (assessmentFailure .missingVenueContract "dated venue mechanics are required" [])
  assessing .venueContractMismatch "venue contract reference is invalid: %v" contract.validate
  failIf (some contract.id != s.venueContractID || contract.instrumentID != s.instrumentID || contract.venue != s.venue)
    (assessmentFailure .venueContractMismatch "venue contract identity does not match the observation" [])
  failIf (!venueContractEffectiveAt contract (s.exchangeAt.getD s.receivedAt))
    (assessmentFailure .venueContractMismatch "venue contract is not effective at the observation time" [])
  validateIncrement .invalidPriceTick "tick size" contract.tickSize "bid" s.bid
  validateIncrement .invalidPriceTick "tick size" contract.tickSize "ask" s.ask
  validateIncrement .invalidLotSize "lot size" contract.lotSize "bid size" s.bidSize
  validateIncrement .invalidLotSize "lot size" contract.lotSize "ask size" s.askSize
  forEach (validateLevel contract) s.depth

def assessForExecution (s : QuoteSnapshot) (asOf : Instant) (requirements : QuoteRequirements)
    (reference : Instrument) (contract : VenueContract) : Outcome QuoteAssessment := do
  let assessment ← s.assess asOf { requirements with requireVenueContract := true }
  s.validateInstrumentEligibility reference assessment.evaluatedAt
  s.validateAgainstVenueContract contract
  failIf (!venueContractEffectiveAt contract assessment.evaluatedAt)
    (assessmentFailure .venueContractMismatch
      "venue contract is not effective at the execution evaluation time" [])
  pure assessment

end QuoteSnapshot

def sampleQuote (id : Uuid) (observationID : String) : QuoteSnapshot where
  id := id
  ingestSequence := 1
  instrumentID := Uuid.ofByte 2
  venueContractID := some (Uuid.ofByte 3)
  provider := "alpaca"
  venue := "alpaca"
  source := "sip"
  observationNamespace := "quotes"
  observationID := observationID
  sourceRevision := ""
  sourceSequence := none
  exchangeAt := some ⟨4000000, true⟩
  receivedAt := ⟨5000000, true⟩
  availableAt := some ⟨5000000, true⟩
  bid := some (.newFromInt 9)
  bidSize := some (.newFromInt 1000)
  ask := some (.newFromInt 10)
  askSize := some (.newFromInt 1000)
  last := none
  mark := none
  marketStatus := "open"
  sessionStatus := "regular"
  depth := [⟨.bid, 0, .newFromInt 9, .newFromInt 1000⟩, ⟨.ask, 0, .newFromInt 10, .newFromInt 1000⟩]
  metadata := emptyObject
  createdAt := ⟨5000000, true⟩

end Augr.MarketData
